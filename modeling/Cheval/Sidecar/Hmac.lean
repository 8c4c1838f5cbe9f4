import Cheval.Sidecar.NonceCache
import Cheval.Python.Value
import Cheval.Python.Utf8
import Mathlib.Tactic.IntervalCases

/-!
# Phase-3 HMAC verification and `HMACVerificationMiddleware.dispatch`

`verify_hmac_phase3` rejects on clock skew first, then compares the header signature, in
constant time, with the lowercase-hex HMAC-SHA256 of the canonical string under the current
secret and, when one is configured, the previous one. `dispatch` wraps it: GET passes
through, a missing secret or header is answered before the body is read, and only a verified
request reaches the nonce cache.

`verifyHmacPhase3_eq_ok_true_iff` says exactly what `verify_hmac_phase3` accepts, and
`dispatch_callNext_iff_admissible` what `dispatch` lets through: the conjunction of the
checks, the nonce's liveness read on every reachable cache of non-negative capacity; and a
request answered with a status changes no live nonce. Below zero capacity the contract fails
(`dispatch_admission_fails_at_negative_capacity`).

The hash functions and `datetime.fromisoformat` are the library's, taken as parameters
(`Lib`). `hmac.compare_digest` is modelled because it is where a header can make the
verifier raise: on a `str` that is not ASCII it raises `TypeError`.
-/

set_option autoImplicit false

namespace Cheval
namespace Sidecar

open Python

/-! ## 1. The verifier -/

/-- What `verify_hmac_phase3` calls from the library. -/
structure Lib where
  sha256 : List UInt8 → List UInt8
  hmacSha256 : (key msg : List UInt8) → List UInt8
  /-- `datetime.fromisoformat(s)` as seconds since the epoch; `none` where it raises
  `ValueError`, and where it returns a naive time, whose subtraction from the aware
  `datetime.now(timezone.utc)` raises `TypeError`. -/
  fromisoformat : String → Option ℚ

/-- The lowercase digit `hexdigest` writes for `n < 16`. -/
def hexDigit (n : Nat) : Char := if n < 10 then Char.ofNat (48 + n) else Char.ofNat (87 + n)

/-- `.hexdigest()`: two lowercase hex digits per byte. -/
def hexdigest (bs : List UInt8) : String :=
  ⟨bs.flatMap fun b => [hexDigit (b.toNat / 16), hexDigit (b.toNat % 16)]⟩

/-- Every character of a `str` is ASCII. -/
def isAscii (s : String) : Bool := s.data.all fun c => c.toNat < 128

/-- `hmac.compare_digest(a, b)` on two `str`: equality, and a `TypeError` when either holds
a non-ASCII character. -/
def compareDigest (a b : String) : Except PyErr Bool :=
  if isAscii a && isAscii b then .ok (a == b) else .error .typeError

/-- `build_canonical_phase3`. -/
def buildCanonicalPhase3 (lib : Lib) (method path : String) (body : List UInt8)
    (issuedAt nonce traceId : String) : String :=
  method ++ "\n" ++ path ++ "\n" ++ hexdigest (lib.sha256 body) ++ "\n" ++ issuedAt ++ "\n" ++
    nonce ++ "\n" ++ traceId

/-- `hmac.new(secret.encode("utf-8"), canonical.encode("utf-8"), hashlib.sha256).hexdigest()`. -/
def expectedSignature (lib : Lib) (secret canonical : String) : String :=
  hexdigest (lib.hmacSha256 (utf8 secret) (utf8 canonical))

/-- `verify_hmac_phase3`, with `datetime.now(timezone.utc)` read as `now`. -/
def verifyHmacPhase3 (lib : Lib) (method path : String) (body : List UInt8)
    (signature nonce traceId issuedAt secret secretPrev : String) (skewSeconds now : ℚ) :
    Except PyErr Bool :=
  match lib.fromisoformat (issuedAt.replace "Z" "+00:00") with
  | none => .ok false
  | some issued =>
    if |now - issued| > skewSeconds then .ok false
    else
      let canonical := buildCanonicalPhase3 lib method path body issuedAt nonce traceId
      match compareDigest signature (expectedSignature lib secret canonical) with
      | .error e => .error e
      | .ok true => .ok true
      | .ok false =>
        if secretPrev = "" then .ok false
        else compareDigest signature (expectedSignature lib secretPrev canonical)

/-- What the verifier is meant to accept: a parseable, aware `issued_at` within the skew of
`now`, and a signature equal to the expected one under the secret or a non-empty previous
secret. -/
def Authentic (lib : Lib) (method path : String) (body : List UInt8)
    (signature nonce traceId issuedAt secret secretPrev : String) (skewSeconds now : ℚ) : Prop :=
  (∃ issued, lib.fromisoformat (issuedAt.replace "Z" "+00:00") = some issued ∧
    |now - issued| ≤ skewSeconds) ∧
  let canonical := buildCanonicalPhase3 lib method path body issuedAt nonce traceId
  (signature = expectedSignature lib secret canonical ∨
    (secretPrev ≠ "" ∧ signature = expectedSignature lib secretPrev canonical))

theorem hexDigit_ascii (n : Nat) (h : n < 16) : (hexDigit n).toNat < 128 := by
  interval_cases n <;> decide

theorem isAscii_hexdigest (bs : List UInt8) : isAscii (hexdigest bs) = true := by
  simp only [isAscii, hexdigest, List.all_eq_true, List.mem_flatMap, List.mem_cons,
    List.mem_singleton, List.not_mem_nil, or_false, decide_eq_true_eq]
  rintro c ⟨b, -, rfl | rfl⟩
  · exact hexDigit_ascii _ (Nat.div_lt_of_lt_mul (UInt8.toNat_lt_size b))
  · exact hexDigit_ascii _ (Nat.mod_lt _ (by omega))

/-- A header that is not ASCII equals no `hexdigest`. -/
theorem ne_hexdigest {a : String} (ha : isAscii a = false) (bs : List UInt8) :
    a ≠ hexdigest bs :=
  fun h => by simp [h, isAscii_hexdigest] at ha

/-- Against a `hexdigest`, `compare_digest` is equality on an ASCII header and a `TypeError`
on any other. -/
theorem compareDigest_hexdigest (a : String) (bs : List UInt8) :
    compareDigest a (hexdigest bs) =
      if isAscii a then .ok (a == hexdigest bs) else .error .typeError := by
  simp [compareDigest, isAscii_hexdigest]

/-- **What the verifier accepts is exactly `Authentic`.** -/
theorem verifyHmacPhase3_eq_ok_true_iff {lib : Lib} {method path : String} {body : List UInt8}
    {signature nonce traceId issuedAt secret secretPrev : String} {skewSeconds now : ℚ} :
    verifyHmacPhase3 lib method path body signature nonce traceId issuedAt secret secretPrev
        skewSeconds now = .ok true ↔
      Authentic lib method path body signature nonce traceId issuedAt secret secretPrev
        skewSeconds now := by
  unfold verifyHmacPhase3 Authentic expectedSignature
  rcases hp : lib.fromisoformat (issuedAt.replace "Z" "+00:00") with _ | issued
  · simp
  · simp only [Option.some.injEq, exists_eq_left']
    by_cases hskew : |now - issued| > skewSeconds
    · simp [hskew]
    · simp only [hskew, if_false, not_lt.1 hskew, true_and, compareDigest_hexdigest]
      cases ha : isAscii signature
      · simp [ne_hexdigest ha]
      · by_cases hprev : secretPrev = "" <;> split <;> simp_all

/-! ## 2. The middleware -/

/-- The module-level settings `dispatch` reads; `NONCE_CACHE_MAX_SIZE` is the cache's own
capacity. -/
structure Settings where
  /-- `CHEVAL_HMAC_SECRET`, default `""`. -/
  hmacSecret : String
  /-- `CHEVAL_HMAC_SECRET_PREV`, default `""`. -/
  hmacSecretPrev : String
  /-- `CHEVAL_HMAC_SKEW_SECONDS`, default `30`. -/
  hmacSkewSeconds : ℚ

/-- A request as `dispatch` sees it: the method, `request.url.path`, the header items under
their lower-cased names, and the body. -/
structure Request where
  method : String
  path : String
  headers : List (String × String)
  body : List UInt8

/-- `request.headers.get(name, "")`. -/
def Request.header (r : Request) (name : String) : String := (r.headers.lookup name).getD ""

/-- The four header values `dispatch` extracts. -/
structure Credentials where
  signature : String
  nonce : String
  issuedAt : String
  traceId : String

def Request.credentials (r : Request) : Credentials :=
  ⟨r.header "x-cheval-signature", r.header "x-cheval-nonce", r.header "x-cheval-issued-at",
    r.header "x-cheval-trace-id"⟩

/-- How `dispatch` ends: handing the request to `call_next`, answering it with a status and
the `error`/`message` of its JSON body, or raising. -/
inductive Dispatch where
  | callNext
  | respond (status : Nat) (error message : String)
  | raised (e : PyErr)
  deriving DecidableEq

/-- Where `dispatch` is after its first synchronous segment: finished, or suspended at
`await request.body()` holding the header values. -/
inductive Head where
  | done (d : Dispatch)
  | awaitBody (c : Credentials)

/-- `dispatch` up to `await request.body()`. -/
def dispatchHead (s : Settings) (r : Request) : Head :=
  if r.method = "GET" then .done .callNext
  else if s.hmacSecret = "" then
    .done (.respond 500 "HMAC_NOT_CONFIGURED" "CHEVAL_HMAC_SECRET not set")
  else if r.credentials.signature = "" ∨ r.credentials.nonce = "" ∨
      r.credentials.issuedAt = "" ∨ r.credentials.traceId = "" then
    .done (.respond 403 "HMAC_MISSING_HEADERS" "Missing required HMAC headers")
  else .awaitBody r.credentials

/-- The answer `dispatch` gives for each outcome of `check_and_add`. -/
def Admission.toDispatch : Admission → Dispatch
  | .admitted => .callNext
  | .replay => .respond 403 "REPLAY_DETECTED" "Nonce already used"
  | .keyError => .raised .keyError

/-- `dispatch` after the body is read: verification with `datetime.now` read as `wall`, then,
with no `await` in between, `check_and_add` with `time.monotonic()` read as `mono`. -/
def dispatchTail (s : Settings) (lib : Lib) (r : Request) (c : Credentials) (wall mono : ℚ)
    (cache : NonceCache) : Dispatch × NonceCache :=
  match verifyHmacPhase3 lib r.method r.path r.body c.signature c.nonce c.traceId c.issuedAt
      s.hmacSecret s.hmacSecretPrev s.hmacSkewSeconds wall with
  | .error e => (.raised e, cache)
  | .ok false => (.respond 403 "HMAC_INVALID" "HMAC signature verification failed", cache)
  | .ok true => (cache.checkAndAdd c.nonce (s.hmacSkewSeconds * 2) mono).map Admission.toDispatch id

/-- `HMACVerificationMiddleware.dispatch` run without interruption. -/
def dispatch (s : Settings) (lib : Lib) (r : Request) (wall mono : ℚ) (cache : NonceCache) :
    Dispatch × NonceCache :=
  match dispatchHead s r with
  | .done d => (d, cache)
  | .awaitBody c => dispatchTail s lib r c wall mono cache

/-! ## 3. Admission is authentication -/

/-- The checks the middleware is meant to make, each read at the clock that code reads. -/
def Admissible (s : Settings) (lib : Lib) (r : Request) (wall mono : ℚ) (cache : NonceCache) :
    Prop :=
  s.hmacSecret ≠ "" ∧
  (r.credentials.signature ≠ "" ∧ r.credentials.nonce ≠ "" ∧ r.credentials.issuedAt ≠ "" ∧
    r.credentials.traceId ≠ "") ∧
  Authentic lib r.method r.path r.body r.credentials.signature r.credentials.nonce
    r.credentials.traceId r.credentials.issuedAt s.hmacSecret s.hmacSecretPrev s.hmacSkewSeconds
    wall ∧
  ¬ cache.Live r.credentials.nonce mono

/-- Past the header checks, `dispatch` is its tail on the request's own credentials. -/
theorem dispatch_eq_tail {s : Settings} {lib : Lib} {r : Request} {wall mono : ℚ}
    {cache : NonceCache} (hget : r.method ≠ "GET") (hs : s.hmacSecret ≠ "")
    (hh : r.credentials.signature ≠ "" ∧ r.credentials.nonce ≠ "" ∧
      r.credentials.issuedAt ≠ "" ∧ r.credentials.traceId ≠ "") :
    dispatch s lib r wall mono cache = dispatchTail s lib r r.credentials wall mono cache := by
  simp [dispatch, dispatchHead, hget, hs, hh.1, hh.2.1, hh.2.2.1, hh.2.2.2]

/-- Before the tail, every path answers and leaves the cache alone. -/
theorem dispatch_of_not_headers {s : Settings} {lib : Lib} {r : Request} {wall mono : ℚ}
    {cache : NonceCache} (hget : r.method ≠ "GET")
    (h : ¬ (s.hmacSecret ≠ "" ∧ (r.credentials.signature ≠ "" ∧ r.credentials.nonce ≠ "" ∧
      r.credentials.issuedAt ≠ "" ∧ r.credentials.traceId ≠ ""))) :
    ∃ status error message,
      dispatch s lib r wall mono cache = (.respond status error message, cache) := by
  simp only [dispatch, dispatchHead, hget, if_false]
  by_cases hs : s.hmacSecret = ""
  · exact ⟨500, "HMAC_NOT_CONFIGURED", "CHEVAL_HMAC_SECRET not set", by simp [hs]⟩
  · have : r.credentials.signature = "" ∨ r.credentials.nonce = "" ∨
        r.credentials.issuedAt = "" ∨ r.credentials.traceId = "" := by tauto
    exact ⟨403, "HMAC_MISSING_HEADERS", "Missing required HMAC headers", by simp [hs, this]⟩

/-- A verified request's fate is `check_and_add`'s; any other leaves the cache alone and
never reaches `call_next`. -/
theorem dispatchTail_spec (s : Settings) (lib : Lib) (r : Request) (wall mono : ℚ)
    (cache : NonceCache) :
    (Authentic lib r.method r.path r.body r.credentials.signature r.credentials.nonce
        r.credentials.traceId r.credentials.issuedAt s.hmacSecret s.hmacSecretPrev
        s.hmacSkewSeconds wall ∧
      dispatchTail s lib r r.credentials wall mono cache =
        (cache.checkAndAdd r.credentials.nonce (s.hmacSkewSeconds * 2) mono).map
          Admission.toDispatch id) ∨
    (¬ Authentic lib r.method r.path r.body r.credentials.signature r.credentials.nonce
        r.credentials.traceId r.credentials.issuedAt s.hmacSecret s.hmacSecretPrev
        s.hmacSkewSeconds wall ∧
      (dispatchTail s lib r r.credentials wall mono cache).2 = cache ∧
      (dispatchTail s lib r r.credentials wall mono cache).1 ≠ .callNext) := by
  rw [← verifyHmacPhase3_eq_ok_true_iff]
  unfold dispatchTail
  split <;> simp_all

@[simp] theorem Admission.toDispatch_eq_callNext (a : Admission) :
    a.toDispatch = .callNext ↔ a = .admitted := by
  cases a <;> simp [Admission.toDispatch]

theorem Admission.eq_replay_of_toDispatch {a : Admission} {status : Nat} {error message : String}
    (h : a.toDispatch = .respond status error message) : a = .replay := by
  cases a <;> simp_all [Admission.toDispatch]

/-- On a reachable cache of capacity not negative, `dispatch` hands a non-GET request to
`call_next` iff the request is admissible. -/
theorem dispatch_eq_callNext_iff {s : Settings} {lib : Lib} {r : Request} {wall mono : ℚ}
    {m : Int} {c : NonceCache} (hget : r.method ≠ "GET")
    (hc : Reachable (s.hmacSkewSeconds * 2) m mono c) (hm : 0 ≤ m) :
    (dispatch s lib r wall mono c).1 = .callNext ↔ Admissible s lib r wall mono c := by
  by_cases hh : s.hmacSecret ≠ "" ∧ (r.credentials.signature ≠ "" ∧ r.credentials.nonce ≠ "" ∧
      r.credentials.issuedAt ≠ "" ∧ r.credentials.traceId ≠ "")
  · rw [dispatch_eq_tail hget hh.1 hh.2]
    rcases dispatchTail_spec s lib r wall mono c with ⟨ha, hd⟩ | ⟨ha, -, hd1⟩
    · have hA := c.checkAndAdd_fst r.credentials.nonce hc.ordered
      have hcap : ¬ c.maxSize < 0 := not_lt.2 (hc.maxSize_eq ▸ hm)
      rw [hd]
      simp only [Prod.map_fst, Admission.toDispatch_eq_callNext, hA, Admissible, hh, ha, hcap]
      split_ifs <;> simp_all
    · simp [Admissible, ha, hd1]
  · obtain ⟨st, er, msg, hd⟩ := @dispatch_of_not_headers s lib r wall mono c hget hh
    rw [hd]
    exact ⟨fun h => Dispatch.noConfusion h, fun h => (hh ⟨h.1, h.2.1⟩).elim⟩

/-- Whenever `dispatch` answers a non-GET request with a status, the nonces live at its
monotonic reading are those of the cache before it: a refused request consumes and evicts
none. -/
theorem live_of_dispatch_respond {s : Settings} {lib : Lib} {r : Request} {wall mono : ℚ}
    {c : NonceCache} (hget : r.method ≠ "GET") {status : Nat} {error message : String}
    (h : (dispatch s lib r wall mono c).1 = .respond status error message) (nonce : String) :
    (dispatch s lib r wall mono c).2.Live nonce mono ↔ c.Live nonce mono := by
  by_cases hh : s.hmacSecret ≠ "" ∧ (r.credentials.signature ≠ "" ∧ r.credentials.nonce ≠ "" ∧
      r.credentials.issuedAt ≠ "" ∧ r.credentials.traceId ≠ "")
  · rw [dispatch_eq_tail hget hh.1 hh.2] at h ⊢
    rcases dispatchTail_spec s lib r wall mono c with ⟨-, hd⟩ | ⟨-, hd2, -⟩
    · rw [hd] at h ⊢
      exact NonceCache.live_checkAndAdd_of_replay (Admission.eq_replay_of_toDispatch h) nonce
    · rw [hd2]
  · obtain ⟨st, er, msg, hd⟩ := @dispatch_of_not_headers s lib r wall mono c hget hh
    rw [hd]

/-- A stand-in for the hash functions and the ISO parser, for the closed instances below:
every hash is one fixed byte and every timestamp parses to `0`. -/
def sampleLib : Lib := ⟨fun _ => [0xab], fun _ _ => [0xcd], fun _ => some 0⟩

/-- A secret, no previous secret, and the default skew of 30 s. -/
def sampleSettings : Settings := ⟨"k", "", 30⟩

/-- A POST to `/invoke` carrying all four headers, signed right under `sampleLib`. -/
def sampleRequest : Request :=
  ⟨"POST", "/invoke", [("x-cheval-signature", "cd"), ("x-cheval-nonce", "n1"),
    ("x-cheval-issued-at", "2026-11-09T00:00:00.000Z"), ("x-cheval-trace-id", "t1")], []⟩

theorem sampleRequest_admissible (m : Int) :
    Admissible sampleSettings sampleLib sampleRequest 0 0 (.empty m) := by
  refine ⟨by decide, by decide, ⟨⟨0, rfl, by simp [sampleSettings]⟩, .inl rfl⟩, ?_⟩
  rintro ⟨e, he, -⟩
  cases he

/-- The cache once the sample request's nonce was admitted at monotonic time 0. -/
def sampleAdmitted : NonceCache :=
  ((NonceCache.empty 10000).checkAndAdd "n1" (sampleSettings.hmacSkewSeconds * 2) 0).2

/-- The admission at 0 stored the deadline `0 + 60`, a float, so the nonce is live a second
later. -/
theorem sampleAdmitted_live : sampleAdmitted.Live sampleRequest.credentials.nonce 1 := by
  have h60 : fadd 0 (sampleSettings.hmacSkewSeconds * 2) = 60 := by
    rw [fadd, show (0 : ℚ) + sampleSettings.hmacSkewSeconds * 2 = ((60 : ℤ) : ℚ) by
      norm_num [sampleSettings], roundBinary64_intCast (by norm_num)]
    norm_num
  exact ⟨("n1", 60), by simp [sampleAdmitted, NonceCache.checkAndAdd, checkAndAddEntries,
    evictExpired, popOverCapacity, NonceCache.empty, h60], rfl, by norm_num⟩

example : (dispatch sampleSettings sampleLib sampleRequest 1 1 sampleAdmitted).1 =
    .respond 403 "REPLAY_DETECTED" "Nonce already used" := by
  rw [dispatch_eq_tail (by decide) (by decide) (by decide)]
  rcases dispatchTail_spec sampleSettings sampleLib sampleRequest 1 1 sampleAdmitted with
    ⟨-, hd⟩ | ⟨hna, -⟩
  · rw [hd, Prod.map_fst, sampleAdmitted.checkAndAdd_fst _
      (Reachable.wait (.call "n1" (.init 0)) zero_le_one).ordered, if_pos sampleAdmitted_live]
    rfl
  · exact absurd ⟨⟨0, rfl, by norm_num [sampleSettings]⟩, .inl rfl⟩ hna

/-! ## 4. A negative capacity -/

/-- With `NONCE_CACHE_MAX_SIZE < 0` every admissible request makes `check_and_add` raise the
`KeyError` of `popitem` on the emptied dict, so none reaches `call_next`. -/
theorem dispatch_keyError_of_negative_capacity {s : Settings} {lib : Lib} {r : Request}
    {wall mono : ℚ} {m : Int} {c : NonceCache} (hget : r.method ≠ "GET")
    (hc : Reachable (s.hmacSkewSeconds * 2) m mono c) (hm : m < 0)
    (ha : Admissible s lib r wall mono c) :
    (dispatch s lib r wall mono c).1 = .raised .keyError := by
  rw [dispatch_eq_tail hget ha.1 ha.2.1]
  rcases dispatchTail_spec s lib r wall mono c with ⟨-, hd⟩ | ⟨hna, -⟩
  · rw [hd, Prod.map_fst, c.checkAndAdd_fst r.credentials.nonce hc.ordered, if_neg ha.2.2.2,
      if_pos (hc.maxSize_eq ▸ hm)]
    rfl
  · exact absurd ha.2.2.1 hna

end Sidecar
end Cheval
