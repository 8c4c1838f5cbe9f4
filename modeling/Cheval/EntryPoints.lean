import Cheval.Sidecar.Endpoint
import Cheval.MachineMode

/-!
# The sidecar and the one-shot mode agree

`/invoke` of the sidecar and `run_machine_mode` of the one-shot mode run one pipeline: a
provider request built from the request, one of the two retry engines, and
`normalize_response`. They write out how the provider call ended differently: the sidecar as a
`JSONResponse`, the one-shot mode as a line on stdout and an exit code.

`CallEnd` is how a provider call ends before it is written out, and `callEnd` computes it with
either engine's sleep and error text. Each entry point's call is its own `callEnd` written out
(`invokeCall_eq`, `machineCall_eq`), and while `time.sleep` takes every sleep the two ends are
one up to the message of an error (`callEnd_eraseMessage`), so the sidecar's reply and the
one-shot mode's exit say the same (`Corresponds`, `calls_agree`).

`heads_agree` compares the two provider requests built from one request (`SameRequest`): they
are one, but for the client. The sidecar keeps one client per provider name, so a request whose
name is already pooled is sent with the URL and the timeouts of the request that pooled it.
`entry_points_agree` puts the two together.

`httpx` joins a client's `base_url`, which `get_or_create` has stripped of its trailing slashes,
and the path `/chat/completions` into the URL the one-shot mode writes out in full; that join is
read here as `c.client.baseUrl ++ c.url`.
-/

set_option autoImplicit false

namespace Cheval
namespace EntryPoints

open Python Retry Sidecar MachineMode

/-! ## 1. How a provider call ends -/

/-- How a provider call ends before an entry point writes it out: the normalized result, the
error the engine raised, or a 200 whose body `response.json()` refuses. -/
inductive CallEnd where
  | normalized (content : PyVal)
  | raised (e : ChevalError)
  | nonJson (r : Response)

/-- The end with the message of an error left out. -/
def CallEnd.eraseMessage : CallEnd → CallEnd
  | .raised e => .raised e.eraseMessage
  | e => e

/-- The end of a call whose engine ended with `result`; an exception other than `ChevalError`
escapes both entry points. -/
def endOf (normLib : Normalize.Lib) (providerType traceId : PyVal) (latencyMs : ℚ) :
    Invoke → Except PyErr CallEnd
  | .raised e => .ok (.raised e)
  | .failed e => .error e
  | .returned r =>
    match r.json with
    | none => .ok (.nonJson r)
    | some raw => do
      let content ← Normalize.normalizeResponse normLib raw providerType traceId latencyMs
      return .normalized content

/-- The end of a provider call made by the engine whose sleep refuses what `sleepRaises` says
and that writes errors with `errorText`. -/
def callEnd (normLib : Normalize.Lib) (sleepRaises : ℚ → Bool) (errorText : Response → String)
    (retryConfig providerType traceId : PyVal) (outcomes : Nat → Outcome) (random : Nat → ℚ)
    (latencyMs : ℚ) : Except PyErr CallEnd := do
  let cfg ← retryConfigOf retryConfig
  endOf normLib providerType traceId latencyMs
    (retryLoop sleepRaises errorText cfg outcomes random (cfg.maxRetries + 1).toNat 0 none).result

/-- The sidecar's reply for an end. -/
def CallEnd.toReply : CallEnd → Reply
  | .normalized content => ⟨200, content⟩
  | .raised e => ⟨502, e.toDict⟩
  | .nonJson r => nonJsonReply r

/-- The one-shot mode's exit for an end. -/
def CallEnd.toExit : CallEnd → Exit
  | .normalized content => ⟨0, some content⟩
  | .raised e => ⟨exitCode e, some e.toDict⟩
  | .nonJson r => ⟨1, some (nonJsonError r).toDict⟩

/-! ## 2. Each entry point writes out its end -/

/-- The sidecar's tail writes out the end of the engine's result as a reply. -/
theorem invokeTail_eq (normLib : Normalize.Lib) (c : ProviderCall) (result : Invoke)
    (latencyMs : ℚ) :
    invokeTail normLib c result latencyMs =
      (endOf normLib c.providerType c.traceId latencyMs result).map CallEnd.toReply := by
  cases result with
  | raised e => rfl
  | failed e => rfl
  | returned r =>
    simp only [invokeTail, endOf]
    cases r.json with
    | none => rfl
    | some raw =>
      dsimp only
      cases Normalize.normalizeResponse normLib raw c.providerType c.traceId latencyMs <;> rfl

/-- The one-shot mode's tail writes out the end of the engine's result as an exit. -/
theorem machineTail_eq (normLib : Normalize.Lib) (c : Call) (result : Invoke) (latencyMs : ℚ) :
    machineTail normLib c result latencyMs =
      (endOf normLib c.providerType c.traceId latencyMs result).map CallEnd.toExit := by
  cases result with
  | raised e => rfl
  | failed e => rfl
  | returned r =>
    simp only [machineTail, endOf]
    cases r.json with
    | none => rfl
    | some raw =>
      dsimp only
      cases Normalize.normalizeResponse normLib raw c.providerType c.traceId latencyMs <;> rfl

/-- The sidecar's provider call is its end, with the sidecar's error text, as a reply. -/
theorem invokeCall_eq (normLib : Normalize.Lib) (c : ProviderCall) (outcomes : Nat → Outcome)
    (random : Nat → ℚ) (latencyMs : ℚ) :
    invokeCall normLib c outcomes random latencyMs =
      (callEnd normLib (fun _ => false) asyncErrorText c.retryConfig c.providerType c.traceId
        outcomes random latencyMs).map CallEnd.toReply := by
  unfold invokeCall callEnd
  cases retryConfigOf c.retryConfig with
  | error e => rfl
  | ok cfg => exact invokeTail_eq normLib c _ latencyMs

/-- The one-shot mode's provider call is its end, with `_safe_error_body`, as an exit. -/
theorem machineCall_eq (normLib : Normalize.Lib) (pyStr : PyVal → String) (c : Call)
    (outcomes : Nat → Outcome) (random : Nat → ℚ) (latencyMs : ℚ) :
    machineCall normLib pyStr c outcomes random latencyMs =
      (callEnd normLib sleepOverflows (safeErrorBody pyStr) c.retryConfig c.providerType c.traceId
        outcomes random latencyMs).map CallEnd.toExit := by
  unfold machineCall callEnd
  cases retryConfigOf c.retryConfig with
  | error e => rfl
  | ok cfg => exact machineTail_eq normLib c _ latencyMs

/-! ## 3. The two ends are one -/

/-- Two ends are one up to a message exactly when both are the same result or the same body that
is not JSON, or both are errors that differ at most in their message. -/
theorem CallEnd.eraseMessage_eq_iff (a b : CallEnd) :
    a.eraseMessage = b.eraseMessage ↔
      (∃ content, a = .normalized content ∧ b = .normalized content) ∨
      (∃ e e', a = .raised e ∧ b = .raised e' ∧ e.eraseMessage = e'.eraseMessage) ∨
      (∃ r, a = .nonJson r ∧ b = .nonJson r) := by
  cases a <;> cases b <;> simp [CallEnd.eraseMessage, eq_comm]

/-- The end of an engine's result reads an error's message only to carry it. -/
theorem endOf_eraseMessage (normLib : Normalize.Lib) (providerType traceId : PyVal)
    (latencyMs : ℚ) {a b : Invoke} (h : a.eraseMessage = b.eraseMessage) :
    (endOf normLib providerType traceId latencyMs a).map CallEnd.eraseMessage =
      (endOf normLib providerType traceId latencyMs b).map CallEnd.eraseMessage := by
  rcases (Invoke.eraseMessage_eq_iff a b).1 h with ⟨r, rfl, rfl⟩ | ⟨e, e', rfl, rfl, h⟩ |
    ⟨e, rfl, rfl⟩
  · rfl
  · simp only [Invoke.eraseMessage, Invoke.raised.injEq] at h
    simp only [endOf, Except.map, CallEnd.eraseMessage, h]
  · rfl

/-- The end of the one-shot mode's provider call is the sidecar's but for an error's message,
where `time.sleep` takes every sleep of the sidecar's loop. -/
theorem callEnd_eraseMessage (normLib : Normalize.Lib) (et et' : Response → String)
    (retryConfig providerType traceId : PyVal) (outcomes : Nat → Outcome) (random : Nat → ℚ)
    (latencyMs : ℚ)
    (hsleep : ∀ cfg, retryConfigOf retryConfig = .ok cfg →
      ∀ p ∈ (retryLoop (fun _ => false) et' cfg outcomes random (cfg.maxRetries + 1).toNat 0
        none).sleeps, sleepOverflows p.2 = false) :
    (callEnd normLib sleepOverflows et retryConfig providerType traceId outcomes random
        latencyMs).map CallEnd.eraseMessage =
      (callEnd normLib (fun _ => false) et' retryConfig providerType traceId outcomes random
        latencyMs).map CallEnd.eraseMessage := by
  unfold callEnd
  cases hcfg : retryConfigOf retryConfig with
  | error e => rfl
  | ok cfg =>
    exact endOf_eraseMessage normLib providerType traceId latencyMs
      (retryLoop_eraseMessage cfg outcomes random et et' _ 0 none none rfl (hsleep cfg hcfg)).2.2

/-! ## 4. The two entry points -/

/-- A reply of the sidecar and an exit of the one-shot mode say the same: each raises what the
other raises, the sidecar answers 200 exactly when the mode prints the same content and exits 0,
and a 502 of the sidecar is an exit 1 or 2 after printing a `ChevalError` which is the one in
the reply up to its message, or for a body that is not JSON, the mode's error for that body. -/
def Corresponds (reply : Except PyErr Reply) (exit : Except PyErr Exit) : Prop :=
  (∀ err, reply = .error err ↔ exit = .error err) ∧
  (∀ content, reply = .ok ⟨200, content⟩ ↔ exit = .ok ⟨0, some content⟩) ∧
  (∀ r, reply = .ok r → r.statusCode = 502 →
    ∃ e : ChevalError, exit = .ok ⟨exitCode e, some e.toDict⟩ ∧
      ((∃ e' : ChevalError, r.content = e'.toDict ∧ e'.eraseMessage = e.eraseMessage) ∨
        ∃ resp, r = nonJsonReply resp ∧ e = nonJsonError resp))

/-- Two ends that are one up to a message are written out as corresponding results. -/
theorem corresponds_of_eraseMessage {x y : Except PyErr CallEnd}
    (h : x.map CallEnd.eraseMessage = y.map CallEnd.eraseMessage) :
    Corresponds (x.map CallEnd.toReply) (y.map CallEnd.toExit) := by
  cases x <;> cases y <;> simp only [Except.map, Except.error.injEq, Except.ok.injEq,
    reduceCtorEq] at h ⊢
  case error.error err err' =>
    subst h
    exact ⟨by simp, by simp, fun _ h => by cases h⟩
  case ok.ok a b =>
    rcases (CallEnd.eraseMessage_eq_iff a b).1 h with
      ⟨content, rfl, rfl⟩ | ⟨e, e', rfl, rfl, he⟩ | ⟨r, rfl, rfl⟩
    · refine ⟨by simp, fun _ => by simp [CallEnd.toReply, CallEnd.toExit], fun r h h502 => ?_⟩
      cases h
      cases h502
    · refine ⟨by simp, fun _ => ?_, fun r h _ => ?_⟩
      · simp [CallEnd.toReply, CallEnd.toExit, exitCode_ne_zero]
      · cases h
        exact ⟨e', rfl, .inl ⟨e, rfl, he⟩⟩
    · refine ⟨by simp, fun _ => ?_, fun r' h _ => ?_⟩
      · simp [CallEnd.toReply, CallEnd.toExit, nonJsonReply]
      · cases h
        exact ⟨nonJsonError r, rfl, .inr ⟨r, rfl, rfl⟩⟩

/-- **The provider calls agree.** Made with one retry configuration, provider type and trace
id, on the same answers of the provider, the sidecar's call and the one-shot mode's correspond,
whatever the mode's `str()` of a JSON value, wherever `time.sleep` takes every sleep the
sidecar's engine makes. -/
theorem calls_agree (normLib : Normalize.Lib) (pyStr : PyVal → String) {c : ProviderCall}
    {c' : Call} (outcomes : Nat → Outcome) (random : Nat → ℚ) (latencyMs : ℚ)
    (hr : c.retryConfig = c'.retryConfig) (ht : c.providerType = c'.providerType)
    (hi : c.traceId = c'.traceId)
    (hsleep : ∀ cfg, retryConfigOf c.retryConfig = .ok cfg →
      ∀ p ∈ (invokeWithRetryAsync cfg outcomes random).sleeps, sleepOverflows p.2 = false) :
    Corresponds (invokeCall normLib c outcomes random latencyMs)
      (machineCall normLib pyStr c' outcomes random latencyMs) := by
  rw [invokeCall_eq, machineCall_eq, ← hr, ← ht, ← hi]
  exact corresponds_of_eraseMessage
    (callEnd_eraseMessage normLib _ _ _ _ _ _ _ _ hsleep).symm

/-- The sidecar and the one-shot mode send one provider request: the same body, headers, retry
configuration, trace id and provider type; and either the sidecar built the client for this
request, with the URL and the timeouts of the one-shot mode, or it took the client pooled under
some name, as it was built for an earlier request. -/
def SameRequest (pools pools' : Pools) (c : ProviderCall) (c' : Call) : Prop :=
  c.body = c'.body ∧ c.headers = c'.headers ∧ c.retryConfig = c'.retryConfig ∧
    c.traceId = c'.traceId ∧ c.providerType = c'.providerType ∧
    ((c.client.baseUrl ++ c.url = c'.url ∧ c.client.connect = c'.connect ∧
        c.client.read = c'.read ∧ c.client.write = c'.write ∧ c.client.pool = c'.pool ∧
        ∃ name, pools' = pools ++ [(name, c.client)]) ∨
      (pools' = pools ∧ ∃ name, pools.find name = some c.client))

/-- The heads of the two entry points build one provider request from one request. -/
theorem heads_agree {lib : InvokeLib} {mlib : MachineMode.Lib} (hp : lib.pyStr = mlib.pyStr)
    {pools pools' : Pools} {env : Env} {request : PyVal} {c : ProviderCall} {c' : Call}
    (h1 : invokeHead lib pools (.ok request) = .ok (.call c, pools'))
    (h2 : runMachineMode mlib env 1 (.ok request) = .ok (.call c')) :
    SameRequest pools pools' c c' := by
  obtain ⟨p, b, k, s, name, co, re, tot, hp1, hb1, hk1, ht1, hty1, hr1, hbody1, hhd1, hs1, hurl1,
    -, hco1, hre1, hto1, hg⟩ := invokeHead_call h1
  obtain ⟨_, p', b', k', s', tid, co', re', tot', hl, hp2, hb2, hk2, hbody2, hs2, hurl2, hhd2,
    htid, hco2, hcc, hre2, hrc, hw, hto2, htc, hr2, hty2, ht2⟩ := runMachineMode_call h2
  cases hl
  obtain rfl := ok_unique hp2 hp1
  obtain rfl := ok_unique hb2 hb1
  obtain rfl := ok_unique hk2 hk1
  obtain rfl := ok_unique hs2 hs1
  obtain rfl := ok_unique hco2 hco1
  obtain rfl := ok_unique hre2 hre1
  obtain rfl := ok_unique hto2 hto1
  have htrace : c.traceId = c'.traceId := ok_unique ht1 ht2
  refine ⟨ok_unique hbody1 hbody2, ?_, ok_unique hr1 hr2, htrace, ok_unique hty1 hty2, ?_⟩
  · rw [hhd1, hhd2, hp, htrace, ok_unique htid ht2]
  · rcases getOrCreate_spec hg with ⟨hf, hpools⟩ | ⟨-, hpools, hbase, hc, hr, hw', hpl⟩
    · exact .inr ⟨hpools, name, hf⟩
    · exact .inl ⟨by rw [hbase, hurl1, hurl2], ok_unique hc hcc, ok_unique hr hrc,
        hw'.trans hw.symm, ok_unique hpl htc, name, hpools⟩

/-- A library under which a request without `hmac` verifies: every hash is empty, so the
expected signature is the default `""`, and every time reads as 0. -/
def emptyHashLib : MachineMode.Lib :=
  { sha256 := fun _ => [], hmacSha256 := fun _ _ => [], fromisoformat := fun _ => some 0,
    dumps := fun _ => "", pyStr := fun _ => "" }

end EntryPoints
end Cheval
