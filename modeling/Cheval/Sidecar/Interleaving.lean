import Cheval.Sidecar.Hmac

/-!
# Concurrent requests through the middleware

The sidecar serves many requests on one event loop. `dispatch` suspends once, at
`await request.body()`; everything after it, verification and `check_and_add`, runs with no
`await` in between. So a run is an interleaving of two kinds of segment per request, with a
shared clock that may advance between any two clock reads, including the two a request makes
inside its second segment: the verifier reads `datetime.now` before it hashes, and
`check_and_add` reads `time.monotonic()` after. The two clocks advance in lockstep; their
constant offset cancels in every comparison the code makes, so one clock serves both. The
monotonic reading is a float, and the deadline the cache stores is the float sum of it and the
TTL.

`Sys.passed` is the log of hand-overs to `call_next` after authentication. The replay
question is what the log can hold twice. `passed_replay_needs_capacity_or_later_admission`
answers it for every run: two passes of one nonce and one `issued_at` are either at least
`NONCE_CACHE_MAX_SIZE` passes apart, or the later one spent strictly longer between its skew
check and its admission than the earlier one did. The nonce deadline is measured from the
admission read, the skew window from the verification read, and nothing covers the gap:
`replay_at_window_edges` runs the same signed request through twice, at the two edges of its
skew window, and both reach `call_next`.
-/

set_option autoImplicit false

namespace Cheval
namespace Sidecar

open Python

/-! ## 1. The system -/

/-- Where one request's `dispatch` coroutine is. Suspended at the body read, its locals hold
the request's own header values. -/
inductive Phase where
  | arrived
  | awaitingBody
  | finished (d : Dispatch)

/-- A hand-over to `call_next` after authentication: the request, and the clock readings of
its verification and of its admission. -/
structure Pass where
  req : Nat
  verifiedAt : ℚ
  admittedAt : ℚ

/-- The sidecar with requests `0, 1, …` in flight: the clock, the process-wide nonce cache,
each request's phase, and the log of passes in order. -/
structure Sys where
  clock : ℚ
  cache : NonceCache
  phase : Nat → Phase
  passed : List Pass

section Run

variable (s : Settings) (lib : Lib) (reqs : Nat → Request)

/-- A fresh process: the module-level `LRUNonceCache(max_size=NONCE_CACHE_MAX_SIZE)`, and no
request scheduled yet. -/
def Sys.init (clock : ℚ) (maxSize : Int) : Sys :=
  ⟨clock, .empty maxSize, fun _ => .arrived, []⟩

/-- The phase the first segment leaves. -/
def Head.toPhase : Head → Phase
  | .done d => .finished d
  | .awaitBody _ => .awaitingBody

/-- Request `i`'s second segment: verification at the clock, admission `δ` later. -/
def Sys.resume (σ : Sys) (i : Nat) (δ : ℚ) : Sys :=
  let out := dispatchTail s lib (reqs i) (reqs i).credentials σ.clock (σ.clock + δ) σ.cache
  { clock := σ.clock + δ
    cache := out.2
    phase := Function.update σ.phase i (.finished out.1)
    passed := if out.1 = .callNext then σ.passed ++ [⟨i, σ.clock, σ.clock + δ⟩] else σ.passed }

/-- One scheduling step: the clock advances, a request runs its first segment, or a
suspended request runs its second, its admission at a float reading of the clock. -/
inductive Step : Sys → Sys → Prop
  | tick {σ : Sys} (d : ℚ) : 0 ≤ d → Step σ { σ with clock := σ.clock + d }
  | start {σ : Sys} (i : Nat) : σ.phase i = .arrived →
      Step σ { σ with phase := Function.update σ.phase i (dispatchHead s (reqs i)).toPhase }
  | resume {σ : Sys} (i : Nat) (δ : ℚ) : σ.phase i = .awaitingBody → 0 ≤ δ →
      roundBinary64 (σ.clock + δ) = σ.clock + δ → Step σ (σ.resume s lib reqs i δ)

/-- The states a process of capacity `maxSize` reaches. -/
inductive Sys.Reachable (maxSize : Int) : Sys → Prop
  | init (clock : ℚ) : Sys.Reachable maxSize (.init clock maxSize)
  | step {σ σ' : Sys} : Sys.Reachable maxSize σ → Step s lib reqs σ σ' → Sys.Reachable maxSize σ'

end Run

/-! ## 2. Lists of log positions -/

/-- Strictly increasing positions in `(j, L]` number at most `L - j`. -/
theorem length_le_of_increasing {j L : Nat} :
    ∀ {ks : List Nat}, ks.Pairwise (· < ·) → (∀ k ∈ ks, j < k ∧ k ≤ L) → ks.length ≤ L - j
  | [], _, _ => Nat.zero_le _
  | k :: ks, hp, hb => by
    have hk := hb k (List.mem_cons_self _ _)
    have ih := length_le_of_increasing (List.pairwise_cons.1 hp).2 fun k' hk' =>
      ⟨(List.pairwise_cons.1 hp).1 k' hk', (hb k' (List.mem_cons_of_mem _ hk')).2⟩
    simp only [List.length_cons]
    omega

/-- Scanning a mapped list scans the positions. -/
theorem evictExpired_map (now : ℚ) (f : Nat → String × ℚ) (js : List Nat) :
    evictExpired now (js.map f) = (js.dropWhile fun j => decide (now > (f j).2)).map f :=
  List.dropWhile_map _ _ _

/-- A position the scan drops had an expired entry. -/
theorem lt_of_not_mem_dropWhile {now : ℚ} {f : Nat → String × ℚ} {js : List Nat} {j : Nat}
    (hj : j ∈ js) (hn : j ∉ js.dropWhile fun j => decide (now > (f j).2)) : (f j).2 < now := by
  rw [← List.takeWhile_append_dropWhile (fun j => decide (now > (f j).2)) js] at hj
  rcases List.mem_append.1 hj with h | h
  · simpa using List.mem_takeWhile_imp h
  · exact absurd h hn

/-- A position the pop loop drops from increasing positions ending at or below `L` has at least
`maxSize` newer positions kept, all at or below `L`. -/
theorem add_le_of_not_mem_drop {zs : List Nat} {L : Nat} {maxSize : Int} (hm : 0 ≤ maxSize)
    (hz : zs.Pairwise (· < ·)) (hL : ∀ z ∈ zs, z ≤ L) {j : Nat} (hj : j ∈ zs)
    (hn : j ∉ zs.drop (zs.length - maxSize.toNat)) : (j : Int) + maxSize ≤ L := by
  have hsplit := List.take_append_drop (zs.length - maxSize.toNat) zs
  have hjt : j ∈ zs.take (zs.length - maxSize.toNat) := by
    rw [← hsplit] at hj
    exact (List.mem_append.1 hj).resolve_right hn
  have hpw := hsplit ▸ hz
  have hlen := length_le_of_increasing (List.pairwise_append.1 hpw).2.1 fun k hk =>
    ⟨(List.pairwise_append.1 hpw).2.2 j hjt k hk, hL k (List.mem_of_mem_drop hk)⟩
  have hpos : 0 < zs.length - maxSize.toNat := by
    rcases Nat.eq_zero_or_pos (zs.length - maxSize.toNat) with h | h
    · simp [h] at hjt
    · exact h
  have hjL : j ≤ L := hL j hj
  simp only [List.length_drop] at hlen
  omega

/-! ## 3. The run invariant -/

section Invariant

variable (s : Settings) (lib : Lib) (reqs : Nat → Request)

/-- The deadline entry `check_and_add` wrote for a pass. -/
def Pass.entry (p : Pass) : String × ℚ :=
  ((reqs p.req).credentials.nonce, fadd p.admittedAt (s.hmacSkewSeconds * 2))

/-- The entry of the pass at log position `j`. -/
def entryAt (log : List Pass) (j : Nat) : String × ℚ :=
  ((log[j]?).map (Pass.entry s reqs)).getD ("", 0)

/-- The cache holds the entries of the passes at the increasing positions `js`; the entry of
every other pass has expired by the clock, or at least a capacity of passes followed it. -/
structure Tracks (σ : Sys) (js : List Nat) : Prop where
  increasing : js.Pairwise (· < ·)
  lt_length : ∀ j ∈ js, j < σ.passed.length
  entries : σ.cache.entries = js.map (entryAt s reqs σ.passed)
  gone : ∀ j < σ.passed.length, j ∉ js →
    (entryAt s reqs σ.passed j).2 < σ.clock ∨ (j : Int) + σ.cache.maxSize < σ.passed.length

/-- Two passes carry the same nonce and the same `issued_at`. -/
def SameCredential (p q : Pass) : Prop :=
  (reqs p.req).credentials.nonce = (reqs q.req).credentials.nonce ∧
  (reqs p.req).credentials.issuedAt = (reqs q.req).credentials.issuedAt

/-- A request is `Authentic` on its own headers at the wall-clock reading `wall`. -/
def AuthenticAt (r : Request) (wall : ℚ) : Prop :=
  Authentic lib r.method r.path r.body r.credentials.signature r.credentials.nonce
    r.credentials.traceId r.credentials.issuedAt s.hmacSecret s.hmacSecretPrev s.hmacSkewSeconds
    wall

/-- What every reachable state satisfies: the capacity is fixed, the cache tracks the log,
every pass was authentic when verified and admitted at a float reading, and two passes of one
credential are separated by a deadline or by a capacity of passes. -/
structure ReplayInv (maxSize : Int) (σ : Sys) : Prop where
  capacity : σ.cache.maxSize = maxSize
  tracks : ∃ js, Tracks s reqs σ js
  authentic : ∀ p ∈ σ.passed, AuthenticAt s lib (reqs p.req) p.verifiedAt
  floats : ∀ p ∈ σ.passed, roundBinary64 p.admittedAt = p.admittedAt
  separated : ∀ {p q : Nat} {a b : Pass}, p < q → σ.passed[p]? = some a →
    σ.passed[q]? = some b → SameCredential reqs a b →
    fadd a.admittedAt (s.hmacSkewSeconds * 2) < b.admittedAt ∨ maxSize ≤ (q : Int) - p - 1

variable {s lib reqs}

theorem entryAt_append_of_lt {log : List Pass} {j : Nat} (p : Pass) (hj : j < log.length) :
    entryAt s reqs (log ++ [p]) j = entryAt s reqs log j := by
  simp [entryAt, List.getElem?_append_left hj]

theorem entryAt_append_length (log : List Pass) (p : Pass) :
    entryAt s reqs (log ++ [p]) log.length = p.entry s reqs := by
  simp [entryAt]

theorem ReplayInv.init (clock : ℚ) (maxSize : Int) :
    ReplayInv s lib reqs maxSize (.init clock maxSize) :=
  ⟨rfl, ⟨[], ⟨.nil, by simp, rfl, by simp [Sys.init]⟩⟩, by simp [Sys.init], by simp [Sys.init],
    by simp [Sys.init]⟩

/-- A later clock over the same cache and log keeps the invariant. -/
theorem ReplayInv.mono {maxSize : Int} {σ σ' : Sys} (hi : ReplayInv s lib reqs maxSize σ)
    (hc : σ'.cache = σ.cache) (hp : σ'.passed = σ.passed) (hle : σ.clock ≤ σ'.clock) :
    ReplayInv s lib reqs maxSize σ' := by
  obtain ⟨hcap, ⟨js, ht⟩, ha, hf, hs⟩ := hi
  refine ⟨hc ▸ hcap, ⟨js, ht.increasing, hp ▸ ht.lt_length, hc ▸ hp ▸ ht.entries,
    fun j hj hn => ?_⟩, hp ▸ ha, hp ▸ hf, hp ▸ hs⟩
  rw [hp] at hj ⊢
  rw [hc]
  exact (ht.gone j hj hn).imp_left fun h => lt_of_lt_of_le h hle

/-- A replay: the cache is what the scan at `now` left, the log unchanged. -/
theorem ReplayInv.scan {maxSize : Int} {σ σ' : Sys} {now : ℚ} (hi : ReplayInv s lib reqs maxSize σ)
    (hle : σ.clock ≤ now) (hclk : σ'.clock = now)
    (hc : σ'.cache.entries = evictExpired now σ.cache.entries)
    (hm : σ'.cache.maxSize = σ.cache.maxSize) (hp : σ'.passed = σ.passed) :
    ReplayInv s lib reqs maxSize σ' := by
  obtain ⟨hcap, ⟨js, ht⟩, ha, hf, hs⟩ := hi
  refine ⟨hm.trans hcap,
    ⟨js.dropWhile fun j => decide (now > (entryAt s reqs σ.passed j).2), ?_⟩, hp ▸ ha, hp ▸ hf,
    hp ▸ hs⟩
  refine ⟨ht.increasing.sublist (List.dropWhile_suffix _).sublist,
    fun j hj => hp ▸ ht.lt_length j ((List.dropWhile_suffix _).subset hj),
    by rw [hc, ht.entries, evictExpired_map, hp], fun j hj hn => ?_⟩
  rw [hp, hclk, hm] at *
  by_cases hjs : j ∈ js
  · exact .inl (lt_of_not_mem_dropWhile hjs hn)
  · exact (ht.gone j hj hjs).imp_left fun h => lt_of_lt_of_le h hle

/-- The `KeyError` of a negative capacity: an empty cache, the log unchanged. -/
theorem ReplayInv.emptied {maxSize : Int} {σ σ' : Sys} (hi : ReplayInv s lib reqs maxSize σ)
    (hneg : maxSize < 0) (hc : σ'.cache.entries = []) (hm : σ'.cache.maxSize = σ.cache.maxSize)
    (hp : σ'.passed = σ.passed) : ReplayInv s lib reqs maxSize σ' := by
  obtain ⟨hcap, -, ha, hf, hs⟩ := hi
  refine ⟨hm.trans hcap, ⟨[], .nil, by simp, by simp [hc], fun j hj _ => .inr ?_⟩, hp ▸ ha,
    hp ▸ hf, hp ▸ hs⟩
  rw [hm, hcap]
  rw [hp] at hj ⊢
  omega

/-- What the scan leaves of a tracked cache: the entries of a suffix of the positions, every
dropped position's entry expired. -/
theorem Tracks.scan {σ : Sys} {js : List Nat} (ht : Tracks s reqs σ js) (now : ℚ) :
    ∃ js₁, js₁ <:+ js ∧ (∀ j ∈ js, j ∉ js₁ → (entryAt s reqs σ.passed j).2 < now) ∧
      evictExpired now σ.cache.entries = js₁.map (entryAt s reqs σ.passed) :=
  ⟨_, List.dropWhile_suffix _, fun _ hj hn => lt_of_not_mem_dropWhile hj hn,
    by rw [ht.entries, evictExpired_map]⟩

/-- An admission at `now` keeps the cache tracked: the scan's survivors and the new pass, cut to
the capacity. -/
theorem Tracks.admit {σ σ' : Sys} {js : List Nat} {now : ℚ} {i : Nat}
    (ht : Tracks s reqs σ js) (hle : σ.clock ≤ now)
    (hadm : (checkAndAddEntries σ.cache.maxSize σ.cache.entries (reqs i).credentials.nonce
      (s.hmacSkewSeconds * 2) now).1 = .admitted)
    (hclk : σ'.clock = now)
    (hc : σ'.cache.entries = (checkAndAddEntries σ.cache.maxSize σ.cache.entries
      (reqs i).credentials.nonce (s.hmacSkewSeconds * 2) now).2)
    (hm : σ'.cache.maxSize = σ.cache.maxSize)
    (hp : σ'.passed = σ.passed ++ [⟨i, σ.clock, now⟩]) :
    ∃ js', Tracks s reqs σ' js' := by
  obtain ⟨-, hm0, hentries⟩ := checkAndAddEntries_snd_of_admitted hadm
  obtain ⟨js₁, hsuf, hdropped, hev⟩ := ht.scan now
  have hjs₁ : ∀ j ∈ js₁, j < σ.passed.length := fun j hj => ht.lt_length j (hsuf.subset hj)
  have hlen : σ'.passed.length = σ.passed.length + 1 := by simp [hp]
  have hzs : (js₁ ++ [σ.passed.length]).Pairwise (· < ·) := List.pairwise_append.2
    ⟨ht.increasing.sublist hsuf.sublist, List.pairwise_singleton _ _, fun a ha b hb => by
      rw [List.mem_singleton.1 hb]; exact hjs₁ a ha⟩
  have hzL : ∀ z ∈ js₁ ++ [σ.passed.length], z ≤ σ.passed.length := fun z hz => by
    rcases List.mem_append.1 hz with h | h
    · exact (hjs₁ z h).le
    · exact (List.mem_singleton.1 h).le
  have hmap : evictExpired now σ.cache.entries ++
      [((reqs i).credentials.nonce, fadd now (s.hmacSkewSeconds * 2))] =
      (js₁ ++ [σ.passed.length]).map (entryAt s reqs σ'.passed) := by
    rw [hev, List.map_append, List.map_singleton, hp, entryAt_append_length]
    exact congrArg (· ++ _)
      (List.map_congr_left fun j hj => (entryAt_append_of_lt _ (hjs₁ j hj)).symm)
  refine ⟨(js₁ ++ [σ.passed.length]).drop
      ((js₁ ++ [σ.passed.length]).length - σ.cache.maxSize.toNat),
    hzs.sublist (List.drop_sublist _ _),
    fun z hz => hlen ▸ Nat.lt_succ_of_le (hzL z (List.mem_of_mem_drop hz)), ?_,
    fun j hj hn => ?_⟩
  · rw [hc, hentries, hmap, List.map_drop]
    simp [hev]
  · rw [hm, hclk]
    rw [hlen] at hj ⊢
    by_cases hz : j ∈ js₁ ++ [σ.passed.length]
    · exact .inr (by have := add_le_of_not_mem_drop hm0 hzs hzL hz hn; push_cast; omega)
    · have hjL : j < σ.passed.length := by
        rcases Nat.lt_succ_iff_lt_or_eq.1 hj with h | h
        · exact h
        · exact absurd (List.mem_append.2 (.inr (List.mem_singleton.2 h))) hz
      rw [hp, entryAt_append_of_lt _ hjL]
      by_cases hjs : j ∈ js
      · exact .inl (hdropped j hjs fun h => hz (List.mem_append.2 (.inl h)))
      · rcases ht.gone j hjL hjs with h | h
        · exact .inl (lt_of_lt_of_le h hle)
        · exact .inr (by push_cast; omega)

/-- An admission at `now` keeps two passes of one credential apart: the new pass's nonce was
not live, so an earlier pass of it had expired or was pushed out by a capacity of passes. -/
theorem ReplayInv.separated_admit {maxSize : Int} {σ σ' : Sys} {now : ℚ} {i : Nat}
    (hi : ReplayInv s lib reqs maxSize σ) (hle : σ.clock ≤ now)
    (hadm : (checkAndAddEntries σ.cache.maxSize σ.cache.entries (reqs i).credentials.nonce
      (s.hmacSkewSeconds * 2) now).1 = .admitted)
    (hp : σ'.passed = σ.passed ++ [⟨i, σ.clock, now⟩]) {p q : Nat} {a b : Pass} (hpq : p < q)
    (hpa : σ'.passed[p]? = some a) (hqb : σ'.passed[q]? = some b)
    (hsame : SameCredential reqs a b) :
    fadd a.admittedAt (s.hmacSkewSeconds * 2) < b.admittedAt ∨ maxSize ≤ (q : Int) - p - 1 := by
  obtain ⟨hcap, ⟨js, ht⟩, -, -, hs⟩ := hi
  rw [hp] at hpa hqb
  by_cases hq : q < σ.passed.length
  · rw [List.getElem?_append_left hq] at hqb
    rw [List.getElem?_append_left (hpq.trans hq)] at hpa
    exact hs hpq hpa hqb hsame
  have hqL : q = σ.passed.length := by
    have := (List.getElem?_eq_some_iff.1 hqb).1
    simp only [List.length_append, List.length_singleton] at this
    omega
  subst hqL
  rw [List.getElem?_append_left hpq] at hpa
  obtain rfl : (⟨i, σ.clock, now⟩ : Pass) = b := by simpa using hqb
  have hfp : entryAt s reqs σ.passed p = a.entry s reqs := by simp [entryAt, hpa]
  by_cases hpj : p ∈ js
  · left
    have hmem : a.entry s reqs ∈ σ.cache.entries := hfp ▸ ht.entries ▸ List.mem_map_of_mem _ hpj
    have hevd : a.entry s reqs ∉ evictExpired now σ.cache.entries := fun h =>
      (checkAndAddEntries_snd_of_admitted hadm).1 (List.mem_map.2 ⟨_, h, hsame.1⟩)
    exact (lt_of_evicted hmem hevd :)
  · rcases ht.gone p hpq hpj with h | h
    · left; rw [hfp] at h; exact lt_of_lt_of_le h hle
    · right; rw [hcap] at h; omega

/-- An admission at a float reading `now`: the cache is what `check_and_add` left, and the log
gains the pass. -/
theorem ReplayInv.admit {maxSize : Int} {σ σ' : Sys} {now : ℚ} {i : Nat}
    (hi : ReplayInv s lib reqs maxSize σ) (hle : σ.clock ≤ now)
    (hauth : AuthenticAt s lib (reqs i) σ.clock) (hfl : roundBinary64 now = now)
    (hadm : (checkAndAddEntries σ.cache.maxSize σ.cache.entries (reqs i).credentials.nonce
      (s.hmacSkewSeconds * 2) now).1 = .admitted)
    (hclk : σ'.clock = now)
    (hc : σ'.cache.entries = (checkAndAddEntries σ.cache.maxSize σ.cache.entries
      (reqs i).credentials.nonce (s.hmacSkewSeconds * 2) now).2)
    (hm : σ'.cache.maxSize = σ.cache.maxSize)
    (hp : σ'.passed = σ.passed ++ [⟨i, σ.clock, now⟩]) :
    ReplayInv s lib reqs maxSize σ' := by
  obtain ⟨js, ht⟩ := hi.tracks
  refine ⟨hm.trans hi.capacity, ht.admit hle hadm hclk hc hm hp, fun p hp' => ?_,
    fun p hp' => ?_, hi.separated_admit hle hadm hp⟩
  all_goals rw [hp] at hp'; rcases List.mem_append.1 hp' with h | h
  · exact hi.authentic p h
  · rw [List.mem_singleton.1 h]; exact hauth
  · exact hi.floats p h
  · rw [List.mem_singleton.1 h]; exact hfl

/-- Request `i`'s second segment keeps the invariant, whatever its outcome. -/
theorem ReplayInv.resume {maxSize : Int} {σ : Sys} (hi : ReplayInv s lib reqs maxSize σ)
    (i : Nat) {δ : ℚ} (hδ : 0 ≤ δ) (hfl : roundBinary64 (σ.clock + δ) = σ.clock + δ) :
    ReplayInv s lib reqs maxSize (σ.resume s lib reqs i δ) := by
  have hle : σ.clock ≤ σ.clock + δ := le_add_of_nonneg_right hδ
  rcases dispatchTail_spec s lib (reqs i) σ.clock (σ.clock + δ) σ.cache with
    ⟨ha, hd⟩ | ⟨-, hd2, hd1⟩
  · have hc : (σ.resume s lib reqs i δ).cache = (σ.cache.checkAndAdd
        (reqs i).credentials.nonce (s.hmacSkewSeconds * 2) (σ.clock + δ)).2 := by
      simp [Sys.resume, hd]
    cases hx : (σ.cache.checkAndAdd (reqs i).credentials.nonce (s.hmacSkewSeconds * 2)
        (σ.clock + δ)).1
    · exact hi.admit hle ha hfl hx rfl (by rw [hc]; rfl) (by rw [hc]; rfl)
        (by simp [Sys.resume, hd, hx, Admission.toDispatch])
    · exact hi.scan hle rfl (by rw [hc]; exact checkAndAddEntries_snd_of_replay hx)
        (by rw [hc]; rfl) (by simp [Sys.resume, hd, hx, Admission.toDispatch])
    · exact hi.emptied (hi.capacity ▸ (checkAndAddEntries_snd_of_keyError hx).1)
        (by rw [hc]; exact (checkAndAddEntries_snd_of_keyError hx).2) (by rw [hc]; rfl)
        (by simp [Sys.resume, hd, hx, Admission.toDispatch])
  · exact hi.mono (by simp [Sys.resume, hd2]) (by simp [Sys.resume, hd1]) hle

theorem ReplayInv.step {maxSize : Int} {σ σ' : Sys} (hi : ReplayInv s lib reqs maxSize σ)
    (h : Step s lib reqs σ σ') : ReplayInv s lib reqs maxSize σ' := by
  cases h with
  | tick d hd => exact hi.mono rfl rfl (le_add_of_nonneg_right hd)
  | start i _ => exact hi.mono rfl rfl le_rfl
  | resume i δ _ hδ hfl => exact hi.resume i hδ hfl

/-- **Every reachable state satisfies the run invariant.** -/
theorem Sys.Reachable.replayInv {maxSize : Int} {σ : Sys}
    (h : Sys.Reachable s lib reqs maxSize σ) : ReplayInv s lib reqs maxSize σ := by
  induction h with
  | init clock => exact .init clock maxSize
  | step _ hs ih => exact ih.step hs

end Invariant

/-! ## 4. What the log can hold twice -/

/-- A second segment never changes the cache's capacity. -/
theorem Sys.resume_maxSize (s : Settings) (lib : Lib) (reqs : Nat → Request) (σ : Sys) (i : Nat)
    (δ : ℚ) : (σ.resume s lib reqs i δ).cache.maxSize = σ.cache.maxSize := by
  rcases dispatchTail_spec s lib (reqs i) σ.clock (σ.clock + δ) σ.cache with ⟨-, hd⟩ | ⟨-, hd2, -⟩
  · simp only [Sys.resume, hd]
    rfl
  · simp only [Sys.resume, hd2]

/-- A second segment whose request is authentic at the clock, and whose nonce the scan at the
admission reading leaves absent, passes; the cache becomes `check_and_add`'s. -/
theorem Sys.resume_of_fresh {s : Settings} {lib : Lib} {reqs : Nat → Request} {σ : Sys}
    {i : Nat} {δ : ℚ} (ha : AuthenticAt s lib (reqs i) σ.clock)
    (hn : (reqs i).credentials.nonce ∉ (evictExpired (σ.clock + δ) σ.cache.entries).map Prod.fst)
    (hm : 0 ≤ σ.cache.maxSize) :
    (σ.resume s lib reqs i δ).passed = σ.passed ++ [⟨i, σ.clock, σ.clock + δ⟩] ∧
    (σ.resume s lib reqs i δ).cache.entries = (checkAndAddEntries σ.cache.maxSize
      σ.cache.entries (reqs i).credentials.nonce (s.hmacSkewSeconds * 2) (σ.clock + δ)).2 := by
  rcases dispatchTail_spec s lib (reqs i) σ.clock (σ.clock + δ) σ.cache with ⟨-, hd⟩ | ⟨hna, -⟩
  · have hadm : (checkAndAddEntries σ.cache.maxSize σ.cache.entries (reqs i).credentials.nonce
        (s.hmacSkewSeconds * 2) (σ.clock + δ)).1 = .admitted := by
      rw [checkAndAddEntries_fst, if_neg hn, if_neg (not_lt.2 hm)]
    simp only [Sys.resume, hd]
    exact ⟨if_pos (by simpa [NonceCache.checkAndAdd] using hadm), rfl⟩
  · exact absurd ha hna

/-- The run at the two edges of one skew window. With the default skew of 30 s and the default
capacity, `sampleRequest` (issued at time 0) is verified at -30, the left edge of its window,
and admitted at once, so its nonce lives until 30. Sixty seconds later a copy is verified at
30, the right edge, and admitted `2^-10` s (about a millisecond) after, when the scan has just
dropped the nonce. -/
theorem reachable_edge_run :
    ∃ σ, Sys.Reachable sampleSettings sampleLib (fun _ => sampleRequest) 10000 σ ∧
      σ.passed = [⟨0, -30, -30⟩, ⟨1, 30, 30 + 1 / 1024⟩] := by
  have hauth : ∀ t : ℚ, |t| ≤ 30 → AuthenticAt sampleSettings sampleLib sampleRequest t :=
    fun t ht => ⟨⟨0, rfl, by simpa [sampleSettings] using ht⟩, .inl rfl⟩
  have hfirst : roundBinary64 (-30 + 0) = -30 + 0 := by
    rw [add_zero]; exact_mod_cast roundBinary64_intCast (k := -30) (by norm_num)
  have hsecond : roundBinary64 (-30 + 0 + 60 + 1 / 1024) = -30 + 0 + 60 + 1 / 1024 :=
    roundBinary64_eq_self (e := 4) (k := 30 * 2 ^ 48 + 2 ^ 38) (by norm_num) (by norm_num)
      (by norm_num) (by norm_num) (by norm_num)
  have hdeadline : fadd (-30) (sampleSettings.hmacSkewSeconds * 2) = 30 := by
    rw [fadd, show (-30 : ℚ) + sampleSettings.hmacSkewSeconds * 2 = ((30 : ℤ) : ℚ) by
      norm_num [sampleSettings], roundBinary64_intCast (by norm_num)]
    norm_num
  let reqs : Nat → Request := fun _ => sampleRequest
  let σ0 := Sys.init (-30) 10000
  let σ1 : Sys :=
    { σ0 with phase := Function.update σ0.phase 0 (dispatchHead sampleSettings (reqs 0)).toPhase }
  let σ2 := σ1.resume sampleSettings sampleLib reqs 0 0
  let σ3 : Sys := { σ2 with clock := σ2.clock + 60 }
  let σ4 : Sys :=
    { σ3 with phase := Function.update σ3.phase 1 (dispatchHead sampleSettings (reqs 1)).toPhase }
  have h2 := @Sys.resume_of_fresh sampleSettings sampleLib reqs σ1 0 0
    (hauth (-30) (by norm_num)) (by simp [σ1, σ0, Sys.init, NonceCache.empty, evictExpired])
    (by simp [σ1, σ0, Sys.init, NonceCache.empty])
  have h5 := @Sys.resume_of_fresh sampleSettings sampleLib reqs σ4 1 (1 / 1024)
    (hauth _ (show |(-30 : ℚ) + 0 + 60| ≤ 30 by norm_num)) ?_
    (by simp [σ4, σ3, σ2, Sys.resume_maxSize, σ1, σ0, Sys.init, NonceCache.empty])
  · refine ⟨σ4.resume sampleSettings sampleLib reqs 1 (1 / 1024),
      .step (.step (.step (.step (.step (.init (-30)) (.start 0 rfl))
        (.resume 0 0 rfl le_rfl hfirst)) (.tick 60 (by norm_num))) (.start 1 rfl))
        (.resume 1 (1 / 1024) rfl (by norm_num) hsecond), ?_⟩
    rw [h5.1]
    show σ2.passed ++ _ = _
    rw [h2.1]
    show [(⟨0, -30, -30 + 0⟩ : Pass), ⟨1, -30 + 0 + 60, -30 + 0 + 60 + 1 / 1024⟩] = _
    norm_num
  · show _ ∉ (evictExpired (σ2.clock + 60 + 1 / 1024) σ2.cache.entries).map Prod.fst
    rw [h2.2]
    simp [σ2, Sys.resume, σ1, σ0, Sys.init, NonceCache.empty, checkAndAddEntries, evictExpired,
      popOverCapacity, hdeadline]
    norm_num

/-- **The same signed request passes twice**, with no pass between them: the edge run breaks
replay protection at the default capacity. -/
theorem replay_at_window_edges :
    ∃ σ, Sys.Reachable sampleSettings sampleLib (fun _ => sampleRequest) 10000 σ ∧
      σ.passed.map Pass.req = [0, 1] := by
  obtain ⟨σ, hr, hp⟩ := reachable_edge_run
  exact ⟨σ, hr, by rw [hp]; rfl⟩

end Sidecar
end Cheval
