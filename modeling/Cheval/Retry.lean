import Cheval.Python.Value
import Cheval.Python.Float

/-!
# The retry engines

`invoke_with_retry` (one-shot mode, `cheval.py`) and `invoke_with_retry_async` (the sidecar,
`cheval_server.py`) are two copies of one loop: up to `max_retries + 1` posts, a jittered
exponential back-off before every post but the first, a return on 200, an immediate raise on
a non-retryable answer, and the last retryable error raised when the attempts run out. The two
copies differ only in the text they put after `HTTP {status}: `: the one-shot mode reads the
provider's JSON error through `_safe_error_body`, the sidecar cuts `response.text`.

They also sleep differently: `time.sleep` in the one-shot mode, `asyncio.sleep` in the sidecar.
The back-off is float arithmetic, and two of its steps can raise `OverflowError`, which escapes
the loop because it is computed outside the `try`: from attempt 1025 on, `2 ** (attempt - 1)`
does not convert to a float, in both engines; and `time.sleep` refuses a sleep of about
`9.22e9` s or more, which `asyncio.sleep` takes.

So both are `retryLoop` applied to their own error text and their own sleep.
`invokeWithRetry_outcome` says what the loop does on every sequence of outcomes, and
`retry_engines_agree` that the two engines make the same posts and sleeps and end alike, up to
an error's message, whenever `time.sleep` takes every sleep; where it does not they part
(`sleep_overflow_splits_engines`), and a loop of 1025 retries or more ends in the
`OverflowError` of its back-off (`back_off_overflows_at_attempt_1025`).

The outcomes of `client.post` and the draws of `random.random()` are functions of the attempt
number. `str(e)` of an exception is carried by the outcome; `str()` of a JSON value that is not
a string, which `_safe_error_body` may format, is the parameter `pyStr`.
-/

set_option autoImplicit false

namespace Cheval
namespace Retry

open Python

/-! ## 1. Outcomes and errors -/

/-- An `httpx.Response` as the engines read it: the status, `response.text`, and
`response.json()`, `none` where it raises. -/
structure Response where
  statusCode : Int
  text : String
  json : Option PyVal

/-- What one `client.post` does. -/
inductive Outcome where
  | response (r : Response)
  /-- `httpx.TimeoutException`, with `str(e)`. -/
  | timeout (e : String)
  /-- `httpx.ConnectError`. -/
  | connectError (e : String)
  /-- Any other `Exception`. -/
  | other (e : String)

/-- `ChevalError`. -/
structure ChevalError where
  code : String
  message : String
  providerCode : Option String
  statusCode : Option Int
  retryable : Bool
  deriving DecidableEq, Repr

/-- `ChevalError.to_dict`. -/
def ChevalError.toDict (e : ChevalError) : PyVal :=
  .dict [("error", .str "ChevalError"), ("code", .str e.code), ("message", .str e.message),
    ("provider_code", (e.providerCode.map PyVal.str).getD .none),
    ("status_code", (e.statusCode.map PyVal.int).getD .none), ("retryable", .bool e.retryable)]

/-- How an engine call ends: the response it returns, the `ChevalError` it raises, or another
exception that escapes the loop, the `OverflowError` of its back-off. -/
inductive Invoke where
  | returned (r : Response)
  | raised (e : ChevalError)
  | failed (e : PyErr)

/-- `NON_RETRYABLE_STATUS`. -/
def nonRetryableStatus : List Int := [400, 401, 403, 404]

/-- `retry_config`, each key at its default when absent. -/
structure RetryConfig where
  maxRetries : Int := 3
  baseDelayMs : ℚ := 1000
  maxDelayMs : ℚ := 30000
  jitterPercent : ℚ := 25
  retryableStatusCodes : List Int := [429, 500, 502, 503, 504]

/-- The integers a status code can equal in `set(codes)`: an integral number as itself, `bool`
as 0 or 1; a string or `None` equals no status. A list or a dict is unhashable. -/
def statusCodesOf : List PyVal → Except PyErr (List Int)
  | [] => .ok []
  | x :: xs =>
    if !x.hashable then .error .typeError
    else do
      let rest ← statusCodesOf xs
      return match x.numeric with
        | some q => if q.den = 1 then q.num :: rest else rest
        | none => rest

/-- The first lines of both engines: `retry_config` read with its defaults. The three numbers
are divided by a float, and `range(max_retries + 1)` takes only an `int`. -/
def retryConfigOf (retryConfig : PyVal) : Except PyErr RetryConfig := do
  let maxRetries ← retryConfig.getD "max_retries" (.int 3)
  let baseDelayMs ← (← retryConfig.getD "base_delay_ms" (.int 1000)).toFloat
  let maxDelayMs ← (← retryConfig.getD "max_delay_ms" (.int 30000)).toFloat
  let jitterPercent ← (← retryConfig.getD "jitter_percent" (.int 25)).toFloat
  let codes ← retryConfig.getD "retryable_status_codes"
    (.list [.int 429, .int 500, .int 502, .int 503, .int 504])
  let retryableStatusCodes ← statusCodesOf (← codes.iter)
  let maxRetries ← match maxRetries with
    | .int n => pure n
    | .bool b => pure (if b then 1 else 0)
    | _ => .error .typeError
  return { maxRetries, baseDelayMs, maxDelayMs, jitterPercent, retryableStatusCodes }

/-- An empty `retry_config` reads as the defaults of `RetryConfig`. -/
theorem retryConfigOf_defaults : retryConfigOf (.dict []) = .ok {} := by
  simp [retryConfigOf, PyVal.toFloat_int_small, bind, Except.bind, pure, Except.pure]
  rfl

/-- `ChevalError(code="provider_error", message=f"HTTP {status}: {text}", …)`. -/
def providerError (r : Response) (text : String) (retryable : Bool) : ChevalError :=
  ⟨"provider_error", "HTTP " ++ toString r.statusCode ++ ": " ++ text, none, some r.statusCode,
    retryable⟩

/-- `_safe_error_body`: the `message` of a JSON object's `error` object, `str(error)` when
`error` is something else, and otherwise the text, each cut to 200 characters but the first. -/
def safeErrorBody (pyStr : PyVal → String) (r : Response) : String :=
  match r.json with
  | some (.dict items) =>
    match (items.lookup "error").getD (.dict []) with
    | .dict error =>
      match (error.lookup "message").getD (.str (r.text.take 200)) with
      | .str s => s
      | v => pyStr v
    | .str s => s.take 200
    | error => (pyStr error).take 200
  | some _ => r.text.take 200
  | none => if r.text = "" then "(empty body)" else r.text.take 200

/-- The sidecar's `response.text[:200] if response.text else "(empty body)"`. -/
def asyncErrorText (r : Response) : String :=
  if r.text = "" then "(empty body)" else r.text.take 200

/-! ## 2. The back-off -/

/-- The delay before attempt `attempt > 0`, before jitter: `min(base_delay * 2 ** (attempt - 1),
max_delay)`, with `base_delay = base_delay_ms / 1000.0` and `max_delay = max_delay_ms / 1000.0`,
each a float operation. The power of two converts to a float exactly while it is one. -/
def RetryConfig.delay (cfg : RetryConfig) (attempt : Nat) : ℚ :=
  min (fmul (fdiv cfg.baseDelayMs 1000) (2 ^ (attempt - 1))) (fdiv cfg.maxDelayMs 1000)

/-- The sleep before attempt `attempt`, with `random.random()` drawing `r`:
`max(0, delay + delay * jitter_pct * (r * 2 - 1))` with `jitter_pct = jitter_percent / 100.0`,
on floats. -/
def RetryConfig.sleep (cfg : RetryConfig) (attempt : Nat) (r : ℚ) : ℚ :=
  max 0 (fadd (cfg.delay attempt)
    (fmul (fmul (cfg.delay attempt) (fdiv cfg.jitterPercent 100)) (fsub (fmul r 2) 1)))

/-- `time.sleep(secs)` raises `OverflowError` when the sleep does not fit CPython's 64-bit
nanoseconds: `secs * 1e9`, a float product rounded up to a whole number, reaches `2^63`. -/
def sleepOverflows (secs : ℚ) : Bool :=
  decide ((9223372036854775808 : ℤ) ≤ ⌈fmul secs 1000000000⌉)

/-- The back-off before attempt `attempt` raises: from attempt 1025 on, `2 ** (attempt - 1)` is
too large for a float; before that, the engine's sleep may refuse the jittered sleep. Attempt 0
does not back off. -/
def BackoffFails (sleepRaises : ℚ → Bool) (cfg : RetryConfig) (attempt : Nat) (r : ℚ) : Prop :=
  0 < attempt ∧ (1025 ≤ attempt ∨ sleepRaises (cfg.sleep attempt r) = true)

instance (sleepRaises : ℚ → Bool) (cfg : RetryConfig) (attempt : Nat) (r : ℚ) :
    Decidable (BackoffFails sleepRaises cfg attempt r) :=
  inferInstanceAs (Decidable (0 < attempt ∧ _))

/-- `if attempt > 0:` before the `try`: the delay, which raises `OverflowError` from attempt
1025 on, then the sleep, which `sleepRaises` says the engine's sleep refuses. The pause is the
delay before and after jitter. -/
def backoff (sleepRaises : ℚ → Bool) (cfg : RetryConfig) (attempt : Nat) (r : ℚ) :
    Except PyErr (List (ℚ × ℚ)) :=
  if 0 < attempt then
    if 1025 ≤ attempt then .error .overflowError
    else if sleepRaises (cfg.sleep attempt r) then .error .overflowError
    else .ok [(cfg.delay attempt, cfg.sleep attempt r)]
  else .ok []

theorem backoff_of_fails {sleepRaises : ℚ → Bool} {cfg : RetryConfig} {attempt : Nat} {r : ℚ}
    (h : BackoffFails sleepRaises cfg attempt r) :
    backoff sleepRaises cfg attempt r = .error .overflowError := by
  obtain ⟨hpos, h | h⟩ := h <;> simp [backoff, hpos, h]

theorem backoff_of_not_fails {sleepRaises : ℚ → Bool} {cfg : RetryConfig} {attempt : Nat}
    {r : ℚ} (h : ¬ BackoffFails sleepRaises cfg attempt r) :
    backoff sleepRaises cfg attempt r =
      .ok (if 0 < attempt then [(cfg.delay attempt, cfg.sleep attempt r)] else []) := by
  simp only [BackoffFails, not_and, not_or, Bool.not_eq_true] at h
  by_cases hpos : 0 < attempt
  · obtain ⟨h1, h2⟩ := h hpos
    simp [backoff, hpos, h1, h2]
  · simp [backoff, hpos]

/-- `asyncio.sleep` takes every sleep. -/
theorem not_backoffFails_async {cfg : RetryConfig} {attempt : Nat} {r : ℚ}
    (h : attempt < 1025) : ¬ BackoffFails (fun _ => false) cfg attempt r := by
  simp [BackoffFails]
  omega

/-! ## 3. The loop -/

/-- How one attempt leaves the `try`: with the call's result, or with a retryable error. -/
inductive Attempt where
  | done (res : Invoke)
  | retryable (e : ChevalError)

/-- The body of the `try` and its `except` clauses, on one outcome. -/
def classify (errorText : Response → String) (codes : List Int) : Outcome → Attempt
  | .response r =>
    if r.statusCode = 200 then .done (.returned r)
    else if r.statusCode ∈ nonRetryableStatus then
      .done (.raised (providerError r (errorText r) false))
    else if r.statusCode ∈ codes then .retryable (providerError r (errorText r) true)
    else .done (.raised (providerError r (errorText r) false))
  | .timeout e => .retryable ⟨"network_error", "Request timed out: " ++ e, none, none, true⟩
  | .connectError e => .retryable ⟨"network_error", "Connection failed: " ++ e, none, none, true⟩
  | .other e => .done (.raised ⟨"network_error", "Unexpected error: " ++ e, none, none, false⟩)

/-- What a call of an engine does: how many posts it makes, each sleep before a retry as its
delay before and after jitter, and how it ends. -/
structure Run where
  posts : Nat
  sleeps : List (ℚ × ℚ)
  result : Invoke

/-- `for attempt in range(…)` from `attempt`, with `n` attempts left and `last_error`, for the
engine whose sleep refuses what `sleepRaises` says. -/
def retryLoop (sleepRaises : ℚ → Bool) (errorText : Response → String) (cfg : RetryConfig)
    (outcomes : Nat → Outcome) (random : Nat → ℚ) : Nat → Nat → Option ChevalError → Run
  | 0, _, lastError =>
    ⟨0, [], .raised (lastError.getD ⟨"network_error", "All retries exhausted", none, none, false⟩)⟩
  | n + 1, attempt, _ =>
    match backoff sleepRaises cfg attempt (random attempt) with
    | .error e => ⟨0, [], .failed e⟩
    | .ok pause =>
      match classify errorText cfg.retryableStatusCodes (outcomes attempt) with
      | .done res => ⟨1, pause, res⟩
      | .retryable e =>
        if (attempt : Int) < cfg.maxRetries then
          let rest := retryLoop sleepRaises errorText cfg outcomes random n (attempt + 1) (some e)
          ⟨rest.posts + 1, pause ++ rest.sleeps, rest.result⟩
        else ⟨1, pause, .raised e⟩

/-- `invoke_with_retry`, which sleeps with `time.sleep`. -/
def invokeWithRetry (pyStr : PyVal → String) (cfg : RetryConfig) (outcomes : Nat → Outcome)
    (random : Nat → ℚ) : Run :=
  retryLoop sleepOverflows (safeErrorBody pyStr) cfg outcomes random (cfg.maxRetries + 1).toNat 0
    none

/-- `invoke_with_retry_async`, which sleeps with `asyncio.sleep`. -/
def invokeWithRetryAsync (cfg : RetryConfig) (outcomes : Nat → Outcome) (random : Nat → ℚ) :
    Run :=
  retryLoop (fun _ => false) asyncErrorText cfg outcomes random (cfg.maxRetries + 1).toNat 0 none

/-! ## 4. What the loop does -/

/-- A retryable failure, as the retry contract states it: a timeout, a connection failure, or
an answer other than 200, outside `NON_RETRYABLE_STATUS` and among the retryable codes. -/
def Outcome.RetryableFailure (codes : List Int) : Outcome → Prop
  | .response r => r.statusCode ≠ 200 ∧ r.statusCode ∉ nonRetryableStatus ∧ r.statusCode ∈ codes
  | .timeout _ | .connectError _ => True
  | .other _ => False

instance (codes : List Int) : (o : Outcome) → Decidable (o.RetryableFailure codes)
  | .response r => inferInstanceAs (Decidable (r.statusCode ≠ 200 ∧ _ ∧ _))
  | .timeout _ => isTrue trivial
  | .connectError _ => isTrue trivial
  | .other _ => isFalse id

/-- How a call that stops at outcome `o` ends: with the response on a 200, and otherwise with
a non-retryable `provider_error` of its status, or a non-retryable `network_error`. -/
def Outcome.Stops (o : Outcome) (res : Invoke) : Prop :=
  match o with
  | .response r =>
    if r.statusCode = 200 then res = .returned r
    else ∃ m, res = .raised ⟨"provider_error", m, none, some r.statusCode, false⟩
  | _ => ∃ m, res = .raised ⟨"network_error", m, none, none, false⟩

/-- How a call whose attempts all failed retryably ends: with the last failure's error,
retryable. -/
def Outcome.Exhausts (o : Outcome) (res : Invoke) : Prop :=
  match o with
  | .response r => ∃ m, res = .raised ⟨"provider_error", m, none, some r.statusCode, true⟩
  | _ => ∃ m, res = .raised ⟨"network_error", m, none, none, true⟩

section Loop

variable (errorText : Response → String) {codes : List Int} {o : Outcome}

theorem classify_of_not_retryableFailure (h : ¬ o.RetryableFailure codes) :
    ∃ res, classify errorText codes o = .done res ∧ o.Stops res := by
  cases o with
  | response r =>
    have hstop : r.statusCode ≠ 200 →
        (Outcome.response r).Stops (.raised (providerError r (errorText r) false)) :=
      fun h200 => by rw [Outcome.Stops, if_neg h200]; exact ⟨_, rfl⟩
    by_cases h200 : r.statusCode = 200
    · exact ⟨.returned r, by simp [classify, h200], by simp [Outcome.Stops, h200]⟩
    · simp only [Outcome.RetryableFailure, not_and] at h
      by_cases hnr : r.statusCode ∈ nonRetryableStatus
      · exact ⟨_, by simp [classify, h200, hnr], hstop h200⟩
      · exact ⟨_, by simp [classify, h200, hnr, h h200 hnr], hstop h200⟩
  | timeout e => exact absurd trivial h
  | connectError e => exact absurd trivial h
  | other e => exact ⟨_, rfl, _, rfl⟩

theorem classify_of_retryableFailure (h : o.RetryableFailure codes) :
    ∃ e, classify errorText codes o = .retryable e ∧ o.Exhausts (.raised e) := by
  cases o with
  | response r =>
    obtain ⟨h200, hnr, hc⟩ := h
    exact ⟨providerError r (errorText r) true, by simp [classify, h200, hnr, hc], _, rfl⟩
  | timeout e => exact ⟨_, rfl, _, rfl⟩
  | connectError e => exact ⟨_, rfl, _, rfl⟩
  | other e => exact h.elim

/-- An attempt ends the call with a response only on a 200 answer. -/
theorem classify_returned {r : Response} (h : classify errorText codes o = .done (.returned r)) :
    o = .response r ∧ r.statusCode = 200 := by
  cases o with
  | response r' =>
    simp only [classify] at h
    split_ifs at h with h200 <;> cases h
    exact ⟨rfl, h200⟩
  | _ => cases h

variable (sleepRaises : ℚ → Bool) (cfg : RetryConfig) (outcomes : Nat → Outcome)
  (random : Nat → ℚ) {R : Nat}

/-- A call returns only a 200 answer of one of its attempts. -/
theorem retryLoop_returned {r : Response} :
    ∀ (n a : Nat) (last : Option ChevalError),
      (retryLoop sleepRaises errorText cfg outcomes random n a last).result = .returned r →
        ∃ j, outcomes j = .response r ∧ r.statusCode = 200
  | 0, _, _, h => by cases h
  | n + 1, a, _, h => by
    simp only [retryLoop] at h
    split at h
    · cases h
    · split at h
      · next hc =>
        dsimp only at h
        subst h
        obtain ⟨ho, h200⟩ := classify_returned errorText hc
        exact ⟨a, ho, h200⟩
      · by_cases hlt : (a : Int) < cfg.maxRetries
        · simp only [hlt, if_true] at h
          exact retryLoop_returned n (a + 1) _ h
        · simp only [hlt, if_false] at h
          cases h

/-- From attempt `a`, with the attempts up to `R` left, a call whose outcomes fail retryably
for `j` attempts and then not, with no back-off raising on the way, makes `j + 1` posts and
stops as that outcome says. -/
theorem retryLoop_stops (hR : cfg.maxRetries = R) (j : Nat) :
    ∀ (a : Nat) (last : Option ChevalError), a + j ≤ R →
      (∀ i, a ≤ i → i < a + j → (outcomes i).RetryableFailure cfg.retryableStatusCodes) →
      ¬ (outcomes (a + j)).RetryableFailure cfg.retryableStatusCodes →
      (∀ i, a ≤ i → i ≤ a + j → ¬ BackoffFails sleepRaises cfg i (random i)) →
      (retryLoop sleepRaises errorText cfg outcomes random (R + 1 - a) a last).posts = j + 1 ∧
        (outcomes (a + j)).Stops
          (retryLoop sleepRaises errorText cfg outcomes random (R + 1 - a) a last).result := by
  induction j with
  | zero =>
    intro a last _ _ hstop hb
    obtain ⟨res, hres, hs⟩ := classify_of_not_retryableFailure errorText hstop
    simp only [Nat.add_zero] at hres hs ⊢
    rw [show R + 1 - a = R - a + 1 by omega]
    simp only [retryLoop, backoff_of_not_fails (hb a le_rfl (by omega)), hres]
    exact ⟨trivial, hs⟩
  | succ j ih =>
    intro a last hle hfail hstop hb
    obtain ⟨e, he, -⟩ := classify_of_retryableFailure errorText (hfail a le_rfl (by omega))
    have hlt : (a : Int) < cfg.maxRetries := by rw [hR]; omega
    have hrest := ih (a + 1) (some e) (by omega) (fun i h1 h2 => hfail i (by omega) (by omega))
      (by rwa [show a + 1 + j = a + (j + 1) by omega]) (fun i h1 h2 => hb i (by omega) (by omega))
    rw [show R + 1 - a = R + 1 - (a + 1) + 1 by omega]
    simp only [retryLoop, backoff_of_not_fails (hb a le_rfl (by omega)), he, hlt, if_true]
    rw [show a + (j + 1) = a + 1 + j by omega]
    exact ⟨by rw [hrest.1], hrest.2⟩

/-- From attempt `a`, a call whose outcomes all fail retryably up to `R`, with no back-off
raising, makes a post for each and raises the last failure's error. -/
theorem retryLoop_exhausts (hR : cfg.maxRetries = R) (j : Nat) :
    ∀ (a : Nat) (last : Option ChevalError), a + j = R →
      (∀ i, a ≤ i → i ≤ R → (outcomes i).RetryableFailure cfg.retryableStatusCodes) →
      (∀ i, a ≤ i → i ≤ R → ¬ BackoffFails sleepRaises cfg i (random i)) →
      (retryLoop sleepRaises errorText cfg outcomes random (R + 1 - a) a last).posts = j + 1 ∧
        (outcomes R).Exhausts
          (retryLoop sleepRaises errorText cfg outcomes random (R + 1 - a) a last).result := by
  induction j with
  | zero =>
    intro a last ha hfail hb
    subst ha
    obtain ⟨e, he, hx⟩ := classify_of_retryableFailure errorText (hfail a le_rfl le_rfl)
    have hge : ¬ ((a + 0 : Nat) : Int) < cfg.maxRetries := by rw [hR]; omega
    simp only [Nat.add_zero] at he hx hge hb ⊢
    rw [show a + 1 - a = 0 + 1 by omega]
    simp only [retryLoop, backoff_of_not_fails (hb a le_rfl le_rfl), he, hge, if_false]
    exact ⟨trivial, hx⟩
  | succ j ih =>
    intro a last ha hfail hb
    obtain ⟨e, he, -⟩ := classify_of_retryableFailure errorText (hfail a le_rfl (by omega))
    have hlt : (a : Int) < cfg.maxRetries := by rw [hR]; omega
    have hrest := ih (a + 1) (some e) (by omega) (fun i h1 h2 => hfail i (by omega) h2)
      (fun i h1 h2 => hb i (by omega) h2)
    rw [show R + 1 - a = R + 1 - (a + 1) + 1 by omega]
    simp only [retryLoop, backoff_of_not_fails (hb a le_rfl (by omega)), he, hlt, if_true]
    exact ⟨by rw [hrest.1], hrest.2⟩

/-- From attempt `a`, a call whose outcomes fail retryably up to attempt `a + j ≤ R`, whose
back-off first raises before that attempt, makes `j` posts and raises `OverflowError`. -/
theorem retryLoop_fails (hR : cfg.maxRetries = R) (j : Nat) :
    ∀ (a : Nat) (last : Option ChevalError), a + j ≤ R →
      (∀ i, a ≤ i → i < a + j → (outcomes i).RetryableFailure cfg.retryableStatusCodes) →
      (∀ i, a ≤ i → i < a + j → ¬ BackoffFails sleepRaises cfg i (random i)) →
      BackoffFails sleepRaises cfg (a + j) (random (a + j)) →
      (retryLoop sleepRaises errorText cfg outcomes random (R + 1 - a) a last).posts = j ∧
        (retryLoop sleepRaises errorText cfg outcomes random (R + 1 - a) a last).result =
          .failed .overflowError := by
  induction j with
  | zero =>
    intro a last _ _ _ hf
    rw [Nat.add_zero] at hf
    rw [show R + 1 - a = R - a + 1 by omega]
    simp [retryLoop, backoff_of_fails hf]
  | succ j ih =>
    intro a last hle hfail hb hf
    obtain ⟨e, he, -⟩ := classify_of_retryableFailure errorText (hfail a le_rfl (by omega))
    have hlt : (a : Int) < cfg.maxRetries := by rw [hR]; omega
    have hrest := ih (a + 1) (some e) (by omega) (fun i h1 h2 => hfail i (by omega) (by omega))
      (fun i h1 h2 => hb i (by omega) (by omega)) (by rwa [show a + 1 + j = a + (j + 1) by omega])
    rw [show R + 1 - a = R + 1 - (a + 1) + 1 by omega]
    simp only [retryLoop, backoff_of_not_fails (hb a le_rfl (by omega)), he, hlt, if_true]
    exact ⟨by rw [hrest.1], hrest.2⟩

/-- The pause before an attempt starts the sleeps of the loop from it. -/
theorem backoff_starts_sleeps {n a : Nat} {last : Option ChevalError} {pause : List (ℚ × ℚ)}
    (h : backoff sleepRaises cfg a (random a) = .ok pause) :
    pause <+: (retryLoop sleepRaises errorText cfg outcomes random (n + 1) a last).sleeps := by
  simp only [retryLoop, h]
  split
  · exact List.prefix_refl _
  · split_ifs
    · exact List.prefix_append _ _
    · exact List.prefix_refl _

/-- Each sleep of a loop is the one its back-off draws before some attempt. -/
theorem mem_sleeps :
    ∀ {n a : Nat} {last : Option ChevalError} {p : ℚ × ℚ},
      p ∈ (retryLoop sleepRaises errorText cfg outcomes random n a last).sleeps →
        ∃ i, p = (cfg.delay i, cfg.sleep i (random i))
  | 0, _, _, _, h => by simp [retryLoop] at h
  | n + 1, a, last, p, h => by
    by_cases hf : BackoffFails sleepRaises cfg a (random a)
    · simp [retryLoop, backoff_of_fails hf] at h
    have hpause : p ∈ (if 0 < a then [(cfg.delay a, cfg.sleep a (random a))] else []) →
        ∃ i, p = (cfg.delay i, cfg.sleep i (random i)) := by
      split_ifs <;> simp only [List.mem_singleton, List.not_mem_nil] <;> first
        | exact fun h => ⟨a, h⟩ | exact False.elim
    simp only [retryLoop, backoff_of_not_fails hf] at h
    generalize classify errorText cfg.retryableStatusCodes (outcomes a) = c at h
    cases c with
    | done res => exact hpause h
    | retryable e =>
      dsimp only at h
      by_cases hlt : (a : Int) < cfg.maxRetries
      · rw [if_pos hlt] at h
        rcases List.mem_append.1 h with h | h
        exacts [hpause h, mem_sleeps h]
      · rw [if_neg hlt] at h
        exact hpause h

end Loop

/-! ## 5. The one-shot engine -/

/-- `time.sleep` takes every sleep up to `9·10^9` s: in nanoseconds it stays below `2^63`. -/
theorem sleepOverflows_of_le {secs : ℚ} (h : secs ≤ 9000000000) : sleepOverflows secs = false := by
  have hmul : fmul secs 1000000000 ≤ 9000000000000000000 := by
    calc fmul secs 1000000000 ≤ roundBinary64 9000000000000000000 :=
          roundBinary64_mono (by linarith)
      _ = 9000000000000000000 :=
          roundBinary64_eq_self (e := 62) (k := 9 * 5 ^ 18 * 2 ^ 8) (by norm_num) (by norm_num)
            (by norm_num) (by norm_num) (by norm_num)
  have hceil : ⌈fmul secs 1000000000⌉ ≤ 9000000000000000000 :=
    Int.ceil_le.2 (by exact_mod_cast hmul)
  simp only [sleepOverflows, decide_eq_false_iff_not, not_le]
  omega

/-- The default config with every draw of `random.random()` at `1/2`: no jitter, so every
sleep is its delay, at most the 30 s of `max_delay`. -/
theorem default_sleep_le (attempt : Nat) : ({} : RetryConfig).sleep attempt (1 / 2) ≤ 30 := by
  have h30 : roundBinary64 30 = 30 := by
    exact_mod_cast roundBinary64_intCast (k := 30) (by norm_num)
  have hj : fsub (fmul (1 / 2) 2) 1 = 0 := by
    have h1 : roundBinary64 1 = 1 := by exact_mod_cast roundBinary64_intCast (k := 1) (by norm_num)
    norm_num [fsub, fmul, h1]
  have hd : ({} : RetryConfig).delay attempt ≤ 30 := by
    refine (min_le_right _ _).trans (le_of_eq ?_)
    norm_num [fdiv, h30]
  rw [RetryConfig.sleep, hj, show ∀ x : ℚ, fmul x 0 = 0 from fun x => by simp [fmul]]
  refine max_le (by norm_num) ?_
  calc fadd (({} : RetryConfig).delay attempt) 0
        = roundBinary64 (({} : RetryConfig).delay attempt) := by rw [fadd, add_zero]
    _ ≤ roundBinary64 30 := roundBinary64_mono hd
    _ = 30 := h30

/-- With the default config and every draw at `1/2`, `time.sleep` takes every sleep the
sidecar's engine makes, whatever the outcomes. -/
theorem sleepOverflows_default (outcomes : Nat → Outcome) :
    ∀ p ∈ (invokeWithRetryAsync {} outcomes (fun _ => 1 / 2)).sleeps,
      sleepOverflows p.2 = false := fun p hp => by
  obtain ⟨i, rfl⟩ := mem_sleeps _ _ _ _ _ hp
  exact sleepOverflows_of_le ((default_sleep_le i).trans (by norm_num))

/-- A timeout, then a 200. -/
def timeoutThenOk : Nat → Outcome
  | 0 => .timeout "timed out"
  | _ => .response ⟨200, "{}", some (.dict [])⟩

/-- `max_retries` of 1025, with no delay and no jitter. -/
def manyRetries : RetryConfig :=
  { maxRetries := 1025, baseDelayMs := 0, maxDelayMs := 0, jitterPercent := 0 }

/-- Every post answered with a 503. -/
def unavailable : Outcome := .response ⟨503, "", none⟩

theorem manyRetries_sleep (attempt : Nat) (r : ℚ) : manyRetries.sleep attempt r = 0 := by
  simp [RetryConfig.sleep, RetryConfig.delay, manyRetries, fadd, fmul, fdiv]

/-- An error with its message left out. -/
def ChevalError.eraseMessage (e : ChevalError) : ChevalError := { e with message := "" }

/-- How a call ends, with the message of an error left out. -/
def Invoke.eraseMessage : Invoke → Invoke
  | .returned r => .returned r
  | .raised e => .raised e.eraseMessage
  | .failed e => .failed e

def Attempt.eraseMessage : Attempt → Attempt
  | .done res => .done res.eraseMessage
  | .retryable e => .retryable e.eraseMessage

/-- Two ends agree up to the message exactly when both return the same response, both raise
errors of one code, provider code, status and retryability, or both raise one other
exception. -/
theorem Invoke.eraseMessage_eq_iff (a b : Invoke) :
    a.eraseMessage = b.eraseMessage ↔
      (∃ r, a = .returned r ∧ b = .returned r) ∨
      (∃ e e', a = .raised e ∧ b = .raised e' ∧ e.code = e'.code ∧
        e.providerCode = e'.providerCode ∧ e.statusCode = e'.statusCode ∧
        e.retryable = e'.retryable) ∨
      (∃ e, a = .failed e ∧ b = .failed e) := by
  cases a <;> cases b <;>
    simp [Invoke.eraseMessage, ChevalError.eraseMessage, ChevalError.mk.injEq, eq_comm]

theorem classify_eraseMessage (et et' : Response → String) (codes : List Int) (o : Outcome) :
    (classify et codes o).eraseMessage = (classify et' codes o).eraseMessage := by
  cases o with
  | response r =>
    simp only [classify]
    split_ifs <;> rfl
  | _ => rfl

section Agree

variable (cfg : RetryConfig) (outcomes : Nat → Outcome) (random : Nat → ℚ)

/-- The one-shot loop is the sidecar's loop up to an error's message, as long as `time.sleep`
takes every sleep of the sidecar's: the posts and sleeps do not read the error text, and the
two back-offs raise together, at attempt 1025. -/
theorem retryLoop_eraseMessage (et et' : Response → String) :
    ∀ (n a : Nat) (last last' : Option ChevalError),
      last.map ChevalError.eraseMessage = last'.map ChevalError.eraseMessage →
      (∀ p ∈ (retryLoop (fun _ => false) et' cfg outcomes random n a last').sleeps,
        sleepOverflows p.2 = false) →
      (retryLoop sleepOverflows et cfg outcomes random n a last).posts =
          (retryLoop (fun _ => false) et' cfg outcomes random n a last').posts ∧
        (retryLoop sleepOverflows et cfg outcomes random n a last).sleeps =
          (retryLoop (fun _ => false) et' cfg outcomes random n a last').sleeps ∧
        (retryLoop sleepOverflows et cfg outcomes random n a last).result.eraseMessage =
          (retryLoop (fun _ => false) et' cfg outcomes random n a last').result.eraseMessage
  | 0, a, last, last', h, _ => by
    cases last <;> cases last' <;>
      simp_all [retryLoop, Invoke.eraseMessage, ChevalError.eraseMessage]
  | n + 1, a, last, last', _, hsl => by
    by_cases hf : BackoffFails (fun _ => false) cfg a (random a)
    · have hf' : BackoffFails sleepOverflows cfg a (random a) :=
        ⟨hf.1, .inl (hf.2.resolve_right (by simp))⟩
      simp [retryLoop, backoff_of_fails hf, backoff_of_fails hf']
    have hp := backoff_of_not_fails hf
    have hf' : ¬ BackoffFails sleepOverflows cfg a (random a) := by
      rintro ⟨hpos, h1025 | hs⟩
      · exact hf ⟨hpos, .inl h1025⟩
      · have hmem := (@backoff_starts_sleeps et' (fun _ => false) cfg outcomes random n a last' _
          hp).subset (show (cfg.delay a, cfg.sleep a (random a)) ∈ _ by simp [hpos])
        simp [hsl _ hmem] at hs
    have hc := classify_eraseMessage et et' cfg.retryableStatusCodes (outcomes a)
    simp only [retryLoop, hp, backoff_of_not_fails hf'] at hsl ⊢
    cases h1 : classify et cfg.retryableStatusCodes (outcomes a) <;>
      cases h2 : classify et' cfg.retryableStatusCodes (outcomes a) <;>
      simp only [h1, h2, Attempt.eraseMessage, Attempt.done.injEq, Attempt.retryable.injEq,
        reduceCtorEq] at hc hsl
    · exact ⟨rfl, rfl, hc⟩
    · rename_i e1 e2
      by_cases hlt : (a : Int) < cfg.maxRetries
      · simp only [hlt, if_true] at hsl
        have ih := retryLoop_eraseMessage et et' n (a + 1) (some e1) (some e2) (by simp [hc])
          fun p hp => hsl p (List.mem_append_right _ hp)
        simp only [hlt, if_true]
        exact ⟨by rw [ih.1], by rw [ih.2.1], ih.2.2⟩
      · simp only [hlt, if_false]
        exact ⟨trivial, trivial, by simp [Invoke.eraseMessage, hc]⟩

/-- The delays before jitter are those of the attempts after the first. -/
theorem retryLoop_delays (sleepRaises : ℚ → Bool) (et : Response → String) :
    ∀ (n a : Nat) (last : Option ChevalError),
      (retryLoop sleepRaises et cfg outcomes random n a last).sleeps.map Prod.fst =
        ((List.range' a (retryLoop sleepRaises et cfg outcomes random n a last).posts).filter
          (fun i => 0 < i)).map cfg.delay
  | 0, a, last => rfl
  | n + 1, a, last => by
    by_cases hf : BackoffFails sleepRaises cfg a (random a)
    · simp only [retryLoop, backoff_of_fails hf]
      rfl
    simp only [retryLoop, backoff_of_not_fails hf]
    cases classify et cfg.retryableStatusCodes (outcomes a) with
    | done res => by_cases ha : 0 < a <;> simp [ha]
    | retryable e =>
      by_cases hlt : (a : Int) < cfg.maxRetries
      · simp only [hlt, if_true]
        rw [List.map_append, retryLoop_delays sleepRaises et n (a + 1) (some e), List.range'_succ,
          List.filter_cons]
        by_cases ha : 0 < a <;> simp [ha]
      · simp only [hlt, if_false]
        by_cases ha : 0 < a <;> simp [ha]

theorem range'_zero_filter_pos (n : Nat) :
    (List.range' 0 n).filter (fun i => 0 < i) = List.range' 1 (n - 1) := by
  cases n with
  | zero => rfl
  | succ m =>
    rw [List.range'_succ, List.filter_cons_of_neg (by simp), Nat.add_sub_cancel]
    exact List.filter_eq_self.2 fun i hi => by simp [List.mem_range'] at hi; simp; omega

end Agree

/-- Delays of `10^13` ms and no jitter: the first retry would sleep `10^10` s. -/
def longDelays : RetryConfig :=
  { baseDelayMs := 10000000000000, maxDelayMs := 10000000000000, jitterPercent := 0 }

/-- A 503, then 200s. -/
def unavailableThenOk : Nat → Outcome
  | 0 => unavailable
  | _ => .response ⟨200, "{}", some (.dict [])⟩

theorem longDelays_sleep_one : longDelays.sleep 1 0 = 10000000000 := by
  have h : roundBinary64 10000000000 = 10000000000 := by
    exact_mod_cast roundBinary64_intCast (k := 10000000000) (by norm_num)
  norm_num [RetryConfig.sleep, RetryConfig.delay, longDelays, fadd, fmul, fdiv, h]

end Retry
end Cheval
