import Cheval.Sidecar.Hmac
import Cheval.Sidecar.Invoke
import Cheval.Retry
import Cheval.Normalize

/-!
# `verify_hmac` and `run_machine_mode`

The one-shot mode reads the request file, checks its HMAC under the current and the previous
secret, checks the provider, and builds the provider's body. Where it stops early it calls
`sys.exit`: 4 for an unsupported schema version, a missing file, a body `json.loads` refuses
and a provider without `base_url` or `api_key`, 3 for a missing secret or a failed HMAC.
Everything else it reads as the sidecar does, with `.get` on what it assumes is a dict, so a
request that is not an object raises before any exit. The HMAC fields are assumed to be
strings as well: `compare_digest` raises `TypeError` on a signature that is not, and
`issued_at.replace` raises `AttributeError` outside the `try` that catches `ValueError` and
`TypeError`.

`invalid_requests_raise` collects, for both entry points, requests that are not well formed
and end in an uncaught exception, or in `sys.exit(3)`, rather than a rejection as invalid.

After the provider call (`machineTail`) the mode prints a `ChevalError` and exits 2 for a
network error and 1 for the rest, prints the error for a body that is not JSON and exits 1, or
prints the normalized result and exits 0.

`json.dumps(…, sort_keys=True, separators=(",", ":"))` and `f"{v}"` of a JSON value are the
library's, beside the hash functions and `datetime.fromisoformat` of `Sidecar.Lib`; `str()` of
a JSON value in `_safe_error_body` is `f"{v}"` as well.
-/

set_option autoImplicit false

namespace Cheval
namespace MachineMode

open Python Request Sidecar Retry

/-! ## 1. `verify_hmac` -/

/-- What `run_machine_mode` calls from the library. -/
structure Lib extends Sidecar.Lib where
  /-- `json.dumps(v, sort_keys=True, separators=(",", ":"))`. -/
  dumps : PyVal → String
  /-- `f"{v}"`. -/
  pyStr : PyVal → String

/-- `hmac.compare_digest(a, b)` where `b` is a `str`: an `a` that is no `str` is a
`TypeError`. -/
def compareDigestAny (a : PyVal) (b : String) : Except PyErr Bool :=
  match a with
  | .str s => compareDigest s b
  | _ => .error .typeError

/-- `verify_hmac`, with `datetime.now(timezone.utc)` read as `now`. Its arguments are typed
`str` in the source; the one-shot mode passes whatever the request file holds. -/
def verifyHmac (lib : Lib) (body : List UInt8) (signature : PyVal) (secret : String)
    (nonce traceId issuedAt : PyVal) (skewSeconds now : ℚ) : Except PyErr Bool := do
  let bodyHash := hexdigest (lib.sha256 body)
  let canonical := lib.dumps (.dict [("body_hash", .str bodyHash), ("issued_at", issuedAt),
    ("nonce", nonce), ("trace_id", traceId)])
  let expected := hexdigest (lib.hmacSha256 (utf8 secret) (utf8 canonical))
  if !(← compareDigestAny signature expected) then return false
  match issuedAt with
  | .str s =>
    match lib.fromisoformat (s.replace "Z" "+00:00") with
    | some issued => return |now - issued| ≤ skewSeconds
    | none => return false
  | _ => .error .attributeError

/-! ## 2. `run_machine_mode` -/

/-- The environment `run_machine_mode` reads: `CHEVAL_HMAC_SECRET` and
`CHEVAL_HMAC_SECRET_PREV` (default `""`), `float(CHEVAL_HMAC_SKEW_SECONDS)` (default 30), and
the clock. -/
structure Env where
  secret : String
  secretPrev : String
  skewSeconds : ℚ
  now : ℚ

/-- The provider call `run_machine_mode` reaches: `invoke_with_retry`'s arguments and the
timeouts of its `httpx.Client`, in seconds. -/
structure Call where
  url : String
  headers : List (String × PyVal)
  body : PyVal
  connect : ℚ
  read : ℚ
  write : ℚ
  pool : ℚ
  retryConfig : PyVal
  traceId : PyVal
  providerType : PyVal

/-- Where `run_machine_mode` goes: `sys.exit(code)`, or the provider call. -/
inductive Machine where
  | exit (code : Nat)
  | call (c : Call)

/-- `request.get("metadata", {}).get("trace_id", "")`. -/
def traceIdOf (request : PyVal) : Except PyErr PyVal := do
  (← request.getD "metadata" (.dict [])).getD "trace_id" (.str "")

/-- `run_machine_mode`, from what opening, reading and `json.loads` of the request file
returned or raised to the provider call. -/
def runMachineMode (lib : Lib) (env : Env) (schemaVersion : Int) (loaded : Except PyErr PyVal) :
    Except PyErr Machine :=
  if schemaVersion ≠ 1 then .ok (.exit 4)
  else
    match loaded with
    | .error .fileNotFoundError | .error .jsonDecodeError => .ok (.exit 4)
    | .error e => .error e
    | .ok request => do
      let hmacData ← request.getD "hmac" (.dict [])
      if env.secret = "" then return .exit 3
      let forSigning := (← request.items).filter (·.1 != "hmac")
      let signingBody := utf8 (lib.dumps (.dict forSigning))
      let verify (secret : String) : Except PyErr Bool := do
        verifyHmac lib signingBody (← hmacData.getD "signature" (.str "")) secret
          (← hmacData.getD "nonce" (.str "")) (← traceIdOf request)
          (← hmacData.getD "issued_at" (.str "")) env.skewSeconds env.now
      let valid ← verify env.secret
      let valid ← if !valid && env.secretPrev != "" then verify env.secretPrev else pure valid
      if !valid then return .exit 3
      let provider ← request.getD "provider" (.dict [])
      let baseUrl ← provider.getD "base_url" (.str "")
      let apiKey ← provider.getD "api_key" (.str "")
      if !baseUrl.truthy || !apiKey.truthy then return .exit 4
      let openaiBody ← buildOpenaiRequest request
      let url := (← rstripSlash baseUrl) ++ "/chat/completions"
      let headers := [("Authorization", .str ("Bearer " ++ lib.pyStr apiKey)),
        ("Content-Type", .str "application/json"), ("X-Request-ID", ← traceIdOf request)]
      let connect ← (← provider.getD "connect_timeout_ms" (.int 5000)).divFloat 1000
      let read ← (← provider.getD "read_timeout_ms" (.int 60000)).divFloat 1000
      let pool ← (← provider.getD "total_timeout_ms" (.int 300000)).divFloat 1000
      let retryConfig ← request.getD "retry" (.dict [])
      let providerType ← provider.getD "type" (.str "openai")
      let traceId ← traceIdOf request
      let call : Call :=
        { url, headers, body := openaiBody, connect, read, write := 30, pool, retryConfig,
          traceId, providerType }
      return .call call

/-- A computation that binds `x` into `k` on one branch and passes `v` to `k` on the other
returns only through `k`. -/
theorem ok_of_ite_bind {α β : Type} {p : Prop} [Decidable p] {x : Except PyErr α}
    {k : α → Except PyErr β} {v : α} {r : β}
    (h : (if p then x >>= k else k v) = .ok r) : ∃ a, k a = .ok r := by
  split_ifs at h
  · exact (bind_eq_ok.1 h).imp fun _ => And.right
  · exact ⟨v, h⟩

/-- What the provider call of the one-shot mode is made of: each field as the source reads it
from the request and its `provider`. -/
theorem runMachineMode_call {lib : Lib} {env : Env} {schemaVersion : Int}
    {loaded : Except PyErr PyVal} {c : Call}
    (h : runMachineMode lib env schemaVersion loaded = .ok (.call c)) :
    ∃ request provider baseUrl apiKey stripped traceId connect read total,
      loaded = .ok request ∧
      request.getD "provider" (.dict []) = .ok provider ∧
      provider.getD "base_url" (.str "") = .ok baseUrl ∧
      provider.getD "api_key" (.str "") = .ok apiKey ∧
      buildOpenaiRequest request = .ok c.body ∧
      rstripSlash baseUrl = .ok stripped ∧ c.url = stripped ++ "/chat/completions" ∧
      c.headers = [("Authorization", .str ("Bearer " ++ lib.pyStr apiKey)),
        ("Content-Type", .str "application/json"), ("X-Request-ID", traceId)] ∧
      traceIdOf request = .ok traceId ∧
      provider.getD "connect_timeout_ms" (.int 5000) = .ok connect ∧
      connect.divFloat 1000 = .ok c.connect ∧
      provider.getD "read_timeout_ms" (.int 60000) = .ok read ∧
      read.divFloat 1000 = .ok c.read ∧ c.write = 30 ∧
      provider.getD "total_timeout_ms" (.int 300000) = .ok total ∧
      total.divFloat 1000 = .ok c.pool ∧
      request.getD "retry" (.dict []) = .ok c.retryConfig ∧
      provider.getD "type" (.str "openai") = .ok c.providerType ∧
      traceIdOf request = .ok c.traceId := by
  unfold runMachineMode at h
  simp only [pure_bind] at h
  rw [if_neg (by rintro hv; rw [if_pos hv] at h; cases h)] at h
  rcases loaded with e | request
  · cases e <;> cases h
  obtain ⟨hmacData, -, h⟩ := bind_eq_ok.1 h
  rw [if_neg (by rintro hc; rw [if_pos hc] at h; cases h)] at h
  obtain ⟨items, -, h⟩ := bind_eq_ok.1 h
  obtain ⟨valid, -, h⟩ := bind_eq_ok.1 h
  obtain ⟨valid', h⟩ := ok_of_ite_bind h
  rw [if_neg (by rintro hc; rw [if_pos hc] at h; cases h)] at h
  obtain ⟨provider, hp, h⟩ := bind_eq_ok.1 h
  obtain ⟨baseUrl, hb, h⟩ := bind_eq_ok.1 h
  obtain ⟨apiKey, ha, h⟩ := bind_eq_ok.1 h
  rw [if_neg (by rintro hc; rw [if_pos hc] at h; cases h)] at h
  obtain ⟨body, hbody, h⟩ := bind_eq_ok.1 h
  obtain ⟨stripped, hs, h⟩ := bind_eq_ok.1 h
  obtain ⟨traceId, ht, h⟩ := bind_eq_ok.1 h
  obtain ⟨connectV, hcv, h⟩ := bind_eq_ok.1 h
  obtain ⟨connect, hc, h⟩ := bind_eq_ok.1 h
  obtain ⟨readV, hrv, h⟩ := bind_eq_ok.1 h
  obtain ⟨read, hr, h⟩ := bind_eq_ok.1 h
  obtain ⟨totalV, htv, h⟩ := bind_eq_ok.1 h
  obtain ⟨total, htot, h⟩ := bind_eq_ok.1 h
  obtain ⟨retry, hretry, h⟩ := bind_eq_ok.1 h
  obtain ⟨ptype, hptype, h⟩ := bind_eq_ok.1 h
  obtain ⟨traceId', ht', h⟩ := bind_eq_ok.1 h
  cases h
  rw [ht] at ht'
  cases ht'
  exact ⟨request, provider, baseUrl, apiKey, stripped, traceId, connectV, readV, totalV, rfl, hp,
    hb, ha, hbody, hs, rfl, rfl, ht, hcv, hc, hrv, hr, rfl, htv, htot, hretry, hptype, ht⟩


/-! ## 3. After the provider call -/

/-- How `run_machine_mode` ends: `sys.exit(code)`, with what it printed to stdout as JSON
before, where it printed. -/
structure Exit where
  code : Nat
  stdout : Option PyVal

/-- The exit code after a `ChevalError`: 2 for a network error, 1 for the rest. -/
def exitCode (e : ChevalError) : Nat := if e.code = "network_error" then 2 else 1

/-- The error printed for a 200 whose body `response.json()` refuses. -/
def nonJsonError (r : Response) : ChevalError :=
  ⟨"provider_error", "Non-JSON response body: " ++ r.text.take 200, none, none, false⟩

/-- `run_machine_mode` after `invoke_with_retry` returned or raised, with `time.monotonic()`
giving `latencyMs`. Only a `ChevalError` is caught; any other exception ends the process. -/
def machineTail (normLib : Normalize.Lib) (c : Call) (result : Invoke) (latencyMs : ℚ) :
    Except PyErr Exit :=
  match result with
  | .raised e => .ok ⟨exitCode e, some e.toDict⟩
  | .failed e => .error e
  | .returned r =>
    match r.json with
    | none => .ok ⟨1, some (nonJsonError r).toDict⟩
    | some raw => do
      let result ← Normalize.normalizeResponse normLib raw c.providerType c.traceId latencyMs
      return ⟨0, some result⟩

/-- The provider call: `invoke_with_retry` reads its configuration and runs the loop, then the
tail. -/
def machineCall (normLib : Normalize.Lib) (pyStr : PyVal → String) (c : Call)
    (outcomes : Nat → Outcome) (random : Nat → ℚ) (latencyMs : ℚ) : Except PyErr Exit := do
  let cfg ← retryConfigOf c.retryConfig
  machineTail normLib c (invokeWithRetry pyStr cfg outcomes random).result latencyMs

/-- `run_machine_mode`, from the request file to `sys.exit`. -/
def runMachineModeToExit (lib : Lib) (normLib : Normalize.Lib) (env : Env) (schemaVersion : Int)
    (loaded : Except PyErr PyVal) (outcomes : Nat → Outcome) (random : Nat → ℚ)
    (latencyMs : ℚ) : Except PyErr Exit := do
  match ← runMachineMode lib env schemaVersion loaded with
  | .exit code => return ⟨code, none⟩
  | .call c => machineCall normLib lib.pyStr c outcomes random latencyMs

/-- Where the mode reaches the provider, it ends as the provider call does. -/
theorem runMachineModeToExit_of_call {lib : Lib} {normLib : Normalize.Lib} {env : Env}
    {schemaVersion : Int} {loaded : Except PyErr PyVal} {c : Call} (outcomes : Nat → Outcome)
    (random : Nat → ℚ) (latencyMs : ℚ)
    (h : runMachineMode lib env schemaVersion loaded = .ok (.call c)) :
    runMachineModeToExit lib normLib env schemaVersion loaded outcomes random latencyMs =
      machineCall normLib lib.pyStr c outcomes random latencyMs := by
  simp only [runMachineModeToExit, h, bind, Except.bind]

/-- The exit code after a `ChevalError` is never success. -/
theorem exitCode_ne_zero (e : ChevalError) : exitCode e ≠ 0 := by
  unfold exitCode
  split <;> decide

/-! ## 4. Requests that are not well formed -/

/-- A provider both entry points accept: a base URL and an API key. -/
def someProvider : PyVal := .dict [("base_url", .str "https://p"), ("api_key", .str "k")]

/-- **Malformed requests raise**, whatever the library, the pool, and the environment. In the
sidecar: a body that is not UTF-8 (`json.loads` raises `UnicodeDecodeError`), a JSON list, a
string `provider`, a string `metadata`, a request without `model`, and a message without
`role`. In the one-shot mode: a file that is not UTF-8, a JSON list, and, with a secret set,
an `hmac` whose `signature` is a number; and with no secret set, the empty object ends in
`sys.exit(3)`. -/
theorem invalid_requests_raise (lib : InvokeLib) (pools : Pools) (mlib : Lib) (env : Env) :
    invokeHead lib pools (.error .unicodeDecodeError) = .error .unicodeDecodeError ∧
      invokeHead lib pools (.ok (.list [])) = .error .attributeError ∧
      invokeHead lib pools (.ok (.dict [("provider", .str "x")])) = .error .attributeError ∧
      invokeHead lib pools (.ok (.dict [("provider", someProvider), ("metadata", .str "x")])) =
        .error .attributeError ∧
      invokeHead lib pools (.ok (.dict [("provider", someProvider)])) = .error .keyError ∧
      invokeHead lib pools (.ok (.dict [("provider", someProvider), ("model", .str "m"),
        ("messages", .list [.dict []])])) = .error .keyError ∧
      runMachineMode mlib env 1 (.error .unicodeDecodeError) = .error .unicodeDecodeError ∧
      runMachineMode mlib env 1 (.ok (.list [])) = .error .attributeError ∧
      runMachineMode mlib { env with secret := "s" } 1
        (.ok (.dict [("hmac", .dict [("signature", .int 5)])])) = .error .typeError ∧
      runMachineMode mlib { env with secret := "" } 1 (.ok (.dict [])) = .ok (.exit 3) :=
  ⟨rfl, rfl, rfl, rfl, rfl, rfl, rfl, rfl, rfl, rfl⟩

end MachineMode
end Cheval
