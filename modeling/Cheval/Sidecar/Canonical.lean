import Cheval.Sidecar.Hmac

/-!
# The Phase-3 canonical string binds the endpoint

`build_canonical_phase3` joins six fields with `\n`: the method, the path, the hex SHA-256 of
the body, `issued_at`, the nonce and the trace id. An HTTP method and header values cannot
hold a newline, and a `hexdigest` never does, so the string splits back into its fields
whatever the path holds: the method is what precedes the first newline, the last four fields
what follows the last four, and the path is the rest (`buildCanonicalPhase3_eq_iff`).

`verify_hmac_phase3` reads the method, the path and the body only through that string
(`verifyHmacPhase3_congr`), and a signature it accepts is the HMAC of the string under one of
the two secrets (`exists_key_of_verify`). So, unless the HMAC under those secrets collides on
two canonical strings, a signature verifies for two requests under the same secrets, clock and
headers only when they share method, path and body digest (`canonical_phase3_binds_endpoint`).
-/

set_option autoImplicit false

namespace Cheval
namespace Sidecar

/-! ## 1. Splitting at a delimiter -/

/-- No hex digit is a newline. -/
theorem hexDigit_ne_newline : ∀ n : Nat, n < 16 → hexDigit n ≠ '\n'
  | 0, _ | 1, _ | 2, _ | 3, _ | 4, _ | 5, _ | 6, _ | 7, _ | 8, _ | 9, _ | 10, _ | 11, _ | 12, _
  | 13, _ | 14, _ | 15, _ => by decide
  | _ + 16, h => absurd h (by omega)

/-- A `hexdigest` holds no newline, whatever the bytes. -/
theorem newline_not_mem_hexdigest (bs : List UInt8) : '\n' ∉ (hexdigest bs).data := by
  simp only [hexdigest, List.mem_flatMap, List.mem_cons, List.mem_singleton, List.not_mem_nil,
    or_false, not_exists, not_and]
  intro b _ h
  have hb := UInt8.toNat_lt_size b
  rcases h with h | h
  · exact hexDigit_ne_newline _ (by simp only [UInt8.size] at hb; omega) h.symm
  · exact hexDigit_ne_newline _ (Nat.mod_lt _ (by omega)) h.symm

/-- A field free of the delimiter is what precedes its first occurrence. -/
theorem append_cons_inj_left {α : Type} {c : α} {x₁ x₂ z₁ z₂ : List α} (h₁ : c ∉ x₁)
    (h₂ : c ∉ x₂) : x₁ ++ c :: z₁ = x₂ ++ c :: z₂ ↔ x₁ = x₂ ∧ z₁ = z₂ := by
  induction x₁ generalizing x₂ with
  | nil =>
    cases x₂ with
    | nil => simp
    | cons y ys =>
      have hy : c ≠ y := fun h => h₂ (h ▸ List.mem_cons_self _ _)
      simp [hy]
  | cons a as ih =>
    cases x₂ with
    | nil =>
      have ha : a ≠ c := fun h => h₁ (h ▸ List.mem_cons_self _ _)
      simp [ha]
    | cons b bs =>
      simp only [List.cons_append, List.cons.injEq, List.mem_cons, not_or] at h₁ h₂ ⊢
      rw [ih h₁.2 h₂.2, and_assoc]

/-- A field free of the delimiter is what follows its last occurrence. -/
theorem append_cons_inj_right {α : Type} {c : α} {x₁ x₂ z₁ z₂ : List α} (h₁ : c ∉ z₁)
    (h₂ : c ∉ z₂) : x₁ ++ c :: z₁ = x₂ ++ c :: z₂ ↔ x₁ = x₂ ∧ z₁ = z₂ := by
  rw [← List.reverse_inj]
  simp only [List.reverse_append, List.reverse_cons, List.append_assoc, List.singleton_append]
  rw [append_cons_inj_left (by simpa using h₁) (by simpa using h₂), List.reverse_inj,
    List.reverse_inj, and_comm]

/-! ## 2. The canonical string splits back -/

/-- The characters of the canonical string, grouped as the splitting reads them: the method,
then the path and the digest and the three header fields from the back. -/
theorem buildCanonicalPhase3_data (lib : Lib) (method path : String) (body : List UInt8)
    (issuedAt nonce traceId : String) :
    (buildCanonicalPhase3 lib method path body issuedAt nonce traceId).data =
      method.data ++ '\n' :: ((((path.data ++ '\n' :: (hexdigest (lib.sha256 body)).data) ++
        '\n' :: issuedAt.data) ++ '\n' :: nonce.data) ++ '\n' :: traceId.data) := by
  simp only [buildCanonicalPhase3, String.data_append, List.append_assoc]
  rfl

/-- **The canonical string splits back into its fields.** With no newline in the method and the
three header fields, two canonical strings are equal exactly when their fields are, whatever
the paths hold. -/
theorem buildCanonicalPhase3_eq_iff {lib : Lib}
    {method path issuedAt nonce traceId method' path' issuedAt' nonce' traceId' : String}
    {body body' : List UInt8} (hm : '\n' ∉ method.data) (hm' : '\n' ∉ method'.data)
    (hi : '\n' ∉ issuedAt.data) (hi' : '\n' ∉ issuedAt'.data) (hn : '\n' ∉ nonce.data)
    (hn' : '\n' ∉ nonce'.data) (ht : '\n' ∉ traceId.data) (ht' : '\n' ∉ traceId'.data) :
    buildCanonicalPhase3 lib method path body issuedAt nonce traceId =
        buildCanonicalPhase3 lib method' path' body' issuedAt' nonce' traceId' ↔
      method = method' ∧ path = path' ∧ issuedAt = issuedAt' ∧ nonce = nonce' ∧
        traceId = traceId' ∧ hexdigest (lib.sha256 body) = hexdigest (lib.sha256 body') := by
  rw [String.ext_iff, buildCanonicalPhase3_data, buildCanonicalPhase3_data,
    append_cons_inj_left hm hm', append_cons_inj_right ht ht', append_cons_inj_right hn hn',
    append_cons_inj_right hi hi',
    append_cons_inj_right (newline_not_mem_hexdigest _) (newline_not_mem_hexdigest _)]
  simp only [← String.ext_iff]
  tauto

/-- `verify_hmac_phase3` reads the method, the path and the body only through the canonical
string. -/
theorem verifyHmacPhase3_congr {lib : Lib} {method path method' path' : String}
    {body body' : List UInt8} {issuedAt nonce traceId : String}
    (h : buildCanonicalPhase3 lib method path body issuedAt nonce traceId =
      buildCanonicalPhase3 lib method' path' body' issuedAt nonce traceId)
    (signature secret secretPrev : String) (skewSeconds now : ℚ) :
    verifyHmacPhase3 lib method path body signature nonce traceId issuedAt secret secretPrev
        skewSeconds now =
      verifyHmacPhase3 lib method' path' body' signature nonce traceId issuedAt secret secretPrev
        skewSeconds now := by
  simp only [verifyHmacPhase3, h]

/-- A verified signature is the HMAC of the canonical string under one of the secrets. -/
theorem exists_key_of_verify {lib : Lib} {method path : String} {body : List UInt8}
    {signature nonce traceId issuedAt secret secretPrev : String} {skewSeconds now : ℚ}
    (h : verifyHmacPhase3 lib method path body signature nonce traceId issuedAt secret secretPrev
      skewSeconds now = .ok true) :
    ∃ k ∈ [secret, secretPrev], signature = expectedSignature lib k
      (buildCanonicalPhase3 lib method path body issuedAt nonce traceId) := by
  obtain ⟨-, hs | ⟨-, hs⟩⟩ := verifyHmacPhase3_eq_ok_true_iff.1 h <;> exact ⟨_, by simp, hs⟩

/-! ## 3. Endpoint binding -/

/-- **The Phase-3 canonical string is injective, and binds the endpoint.** For every pair of
inputs whose method, `issued_at`, nonce and trace id hold no newline, the canonical strings are
equal iff the inputs agree on method, path, `issued_at`, nonce and trace id and their bodies on
the SHA-256 hex digest; the path may hold anything, newlines included. Under the same secrets,
clock and headers, `verify_hmac_phase3` gives the same answer on two requests with one
canonical string, and a signature verifies for both only if they agree on method, path and
body digest, unless the HMAC under the secret or the previous secret collides on their two
canonical strings. -/
theorem canonical_phase3_binds_endpoint (lib : Lib)
    (method path issuedAt nonce traceId method' path' issuedAt' nonce' traceId' : String)
    (body body' : List UInt8) (hm : '\n' ∉ method.data) (hm' : '\n' ∉ method'.data)
    (hi : '\n' ∉ issuedAt.data) (hi' : '\n' ∉ issuedAt'.data) (hn : '\n' ∉ nonce.data)
    (hn' : '\n' ∉ nonce'.data) (ht : '\n' ∉ traceId.data) (ht' : '\n' ∉ traceId'.data) :
    (buildCanonicalPhase3 lib method path body issuedAt nonce traceId =
        buildCanonicalPhase3 lib method' path' body' issuedAt' nonce' traceId' ↔
      method = method' ∧ path = path' ∧ issuedAt = issuedAt' ∧ nonce = nonce' ∧
        traceId = traceId' ∧ hexdigest (lib.sha256 body) = hexdigest (lib.sha256 body')) ∧
    ∀ (signature secret secretPrev : String) (skewSeconds now : ℚ),
      let c := buildCanonicalPhase3 lib method path body issuedAt nonce traceId
      let c' := buildCanonicalPhase3 lib method' path' body' issuedAt nonce traceId
      (c = c' →
        verifyHmacPhase3 lib method path body signature nonce traceId issuedAt secret secretPrev
            skewSeconds now =
          verifyHmacPhase3 lib method' path' body' signature nonce traceId issuedAt secret
            secretPrev skewSeconds now) ∧
      (verifyHmacPhase3 lib method path body signature nonce traceId issuedAt secret secretPrev
          skewSeconds now = .ok true →
        verifyHmacPhase3 lib method' path' body' signature nonce traceId issuedAt secret
          secretPrev skewSeconds now = .ok true →
        (∀ k ∈ [secret, secretPrev], ∀ k' ∈ [secret, secretPrev],
          expectedSignature lib k c = expectedSignature lib k' c' → c = c') →
        method = method' ∧ path = path' ∧
          hexdigest (lib.sha256 body) = hexdigest (lib.sha256 body')) := by
  refine ⟨buildCanonicalPhase3_eq_iff hm hm' hi hi' hn hn' ht ht',
    fun signature secret secretPrev skewSeconds now =>
      ⟨fun hc => verifyHmacPhase3_congr hc _ _ _ _ _, fun h h' hcoll => ?_⟩⟩
  obtain ⟨k, hkm, hk⟩ := exists_key_of_verify h
  obtain ⟨k', hkm', hk'⟩ := exists_key_of_verify h'
  obtain ⟨hmeq, hpeq, -, -, -, hdig⟩ :=
    (buildCanonicalPhase3_eq_iff hm hm' hi hi hn hn ht ht).1
      (hcoll k hkm k' hkm' (hk.symm.trans hk'))
  exact ⟨hmeq, hpeq, hdig⟩

/-- The spec's endpoint-binding case: signed for `/invoke`, sent to `/invoke/stream`. The
right-hand sides are false at these paths, so neither the canonical strings nor a signature
verifying for both can agree. -/
theorem invoke_and_stream_canonicals_differ :
    '\n' ∉ "POST".data ∧ '\n' ∉ "POST".data ∧ '\n' ∉ "t0".data ∧ '\n' ∉ "t0".data ∧
      '\n' ∉ "n1".data ∧ '\n' ∉ "n1".data ∧ '\n' ∉ "r1".data ∧ '\n' ∉ "r1".data ∧
    ((buildCanonicalPhase3 sampleLib "POST" "/invoke" [] "t0" "n1" "r1" =
        buildCanonicalPhase3 sampleLib "POST" "/invoke/stream" [] "t0" "n1" "r1" ↔
      "POST" = "POST" ∧ "/invoke" = "/invoke/stream" ∧ "t0" = "t0" ∧ "n1" = "n1" ∧
        "r1" = "r1" ∧ hexdigest (sampleLib.sha256 []) = hexdigest (sampleLib.sha256 [])) ∧
    ∀ (signature secret secretPrev : String) (skewSeconds now : ℚ),
      let c := buildCanonicalPhase3 sampleLib "POST" "/invoke" [] "t0" "n1" "r1"
      let c' := buildCanonicalPhase3 sampleLib "POST" "/invoke/stream" [] "t0" "n1" "r1"
      (c = c' →
        verifyHmacPhase3 sampleLib "POST" "/invoke" [] signature "n1" "r1" "t0" secret
            secretPrev skewSeconds now =
          verifyHmacPhase3 sampleLib "POST" "/invoke/stream" [] signature "n1" "r1" "t0" secret
            secretPrev skewSeconds now) ∧
      (verifyHmacPhase3 sampleLib "POST" "/invoke" [] signature "n1" "r1" "t0" secret secretPrev
          skewSeconds now = .ok true →
        verifyHmacPhase3 sampleLib "POST" "/invoke/stream" [] signature "n1" "r1" "t0" secret
          secretPrev skewSeconds now = .ok true →
        (∀ k ∈ [secret, secretPrev], ∀ k' ∈ [secret, secretPrev],
          expectedSignature sampleLib k c = expectedSignature sampleLib k' c' → c = c') →
        "POST" = "POST" ∧ "/invoke" = "/invoke/stream" ∧
          hexdigest (sampleLib.sha256 []) = hexdigest (sampleLib.sha256 []))) :=
  ⟨by decide, by decide, by decide, by decide, by decide, by decide, by decide, by decide,
    canonical_phase3_binds_endpoint sampleLib "POST" "/invoke" "t0" "n1" "r1" "POST"
      "/invoke/stream" "t0" "n1" "r1" [] [] (by decide) (by decide) (by decide) (by decide)
      (by decide) (by decide) (by decide) (by decide)⟩

end Sidecar
end Cheval
