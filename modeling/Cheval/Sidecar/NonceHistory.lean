import Mathlib.Data.List.DropRight
import Cheval.Sidecar.NonceCache

/-!
# The nonce cache's answers from its history

`LRUNonceCache` is a dict of deadlines, but what it answers can be said from the calls alone.
Over a run of `check_and_add` calls with one `ttl`, at non-decreasing times and with a capacity
`_max_size ≥ 0`, a call is a replay exactly when an earlier call admitted the same nonce, its
deadline has not passed, and fewer than `_max_size` admissions came in between
(`nonce_cache_answers_from_history`). The deadline is the float sum of the admitting call's
reading and `ttl`, and the rounding shows: a call strictly more than `ttl` after an admission
can still be a replay (`replay_past_exact_deadline`).

The two evictions both drop entries from the old end, so the cache is always a suffix of the
newest `_max_size` admitted entries, and what is missing from that suffix had expired by the
last call (`HistoryInv.newest`). That field is inductive because deadlines come in the order
of the calls (`HistoryInv.sorted`, from non-decreasing times and one `ttl`) and no call is
later than the clock bound (`HistoryInv.before`): an expired entry has only expired entries in
front of it, so the early-stopping scan removes exactly the expired part.
-/

set_option autoImplicit false

namespace Cheval
namespace Sidecar

open Python

/-! ## 1. The newest entries of a list -/

section Rtake

variable {α : Type} (x : α) (xs ys : List α)

theorem rtake_cons (k : Nat) :
    (x :: xs).rtake k = if xs.length < k then x :: xs.rtake k else xs.rtake k := by
  simp only [List.rtake, List.length_cons]
  split_ifs with h
  · rw [Nat.sub_eq_zero_of_le (by omega), Nat.sub_eq_zero_of_le (by omega)]
    rfl
  · rw [show xs.length + 1 - k = (xs.length - k) + 1 by omega]
    rfl

theorem rtake_append (k : Nat) : (xs ++ ys).rtake k = xs.rtake (k - ys.length) ++ ys.rtake k := by
  simp only [List.rtake, List.length_append, List.drop_append_eq_append_drop]
  congr 1
  · by_cases h : k ≤ ys.length
    · rw [List.drop_eq_nil_of_le (by omega), Nat.sub_eq_zero_of_le h, Nat.sub_zero,
        List.drop_length]
    · congr 1
      omega
  · congr 1
    omega

theorem rtake_rtake {j k : Nat} (h : j ≤ k) : (xs.rtake k).rtake j = xs.rtake j := by
  simp only [List.rtake, List.length_drop, List.drop_drop]
  congr 1
  omega

theorem rtake_suffix (k : Nat) : xs.rtake k <:+ xs := List.drop_suffix _ _

/-- Appending to a list whose newest `k` are `R ++ S` leaves, in front of the newest `k` of
`S` with the new item, only a suffix of `R`. -/
theorem rtake_concat_of_eq {k : Nat} {R S : List α} (h : xs.rtake k = R ++ S) :
    ∃ R', (xs ++ [x]).rtake k = R' ++ (S ++ [x]).rtake k ∧ R' <:+ R := by
  cases k with
  | zero => exact ⟨[], by simp [List.rtake], List.nil_suffix⟩
  | succ k =>
    refine ⟨R.rtake (k - S.length), ?_, rtake_suffix _ _⟩
    rw [List.rtake_concat_succ, List.rtake_concat_succ, ← rtake_rtake xs (Nat.le_succ k), h,
      rtake_append, List.append_assoc]

end Rtake

/-! ## 2. Runs and their histories -/

/-- The calls of a run from cache `c`, each with what it returned. -/
def trace (ttl : ℚ) : NonceCache → List (String × ℚ) → List ((String × ℚ) × Admission)
  | _, [] => []
  | c, (n, t) :: rest =>
    ((n, t), (c.checkAndAdd n ttl t).1) :: trace ttl (c.checkAndAdd n ttl t).2 rest

/-- The cache a run from `c` leaves. -/
def after (ttl : ℚ) : NonceCache → List (String × ℚ) → NonceCache
  | c, [] => c
  | c, (n, t) :: rest => after ttl (c.checkAndAdd n ttl t).2 rest

theorem trace_map_fst (ttl : ℚ) :
    ∀ (c : NonceCache) (calls : List (String × ℚ)), (trace ttl c calls).map Prod.fst = calls
  | _, [] => rfl
  | c, (n, t) :: rest => by simp [trace, trace_map_fst ttl _ rest]

/-- The entries the admitted calls of a history wrote, oldest first. -/
def admittedEntries (ttl : ℚ) (H : List ((String × ℚ) × Admission)) : List (String × ℚ) :=
  H.filterMap fun x => if x.2 = .admitted then some (x.1.1, fadd x.1.2 ttl) else none

theorem admittedEntries_append (ttl : ℚ) (H H' : List ((String × ℚ) × Admission)) :
    admittedEntries ttl (H ++ H') = admittedEntries ttl H ++ admittedEntries ttl H' :=
  List.filterMap_append _ _ _

theorem admittedEntries_cons (ttl : ℚ) (x : (String × ℚ) × Admission)
    (H : List ((String × ℚ) × Admission)) :
    admittedEntries ttl (x :: H) =
      if x.2 = .admitted then (x.1.1, fadd x.1.2 ttl) :: admittedEntries ttl H
      else admittedEntries ttl H := by
  simp only [admittedEntries, List.filterMap_cons]
  split_ifs <;> rfl

theorem length_admittedEntries (ttl : ℚ) (H : List ((String × ℚ) × Admission)) :
    (admittedEntries ttl H).length = (H.map Prod.snd).count .admitted := by
  induction H with
  | nil => rfl
  | cons x H ih =>
    rw [admittedEntries_cons, List.map_cons, List.count_cons]
    by_cases h : x.2 = .admitted <;> simp [h, ih]

/-- The newest `k` admitted entries, by the calls that wrote them: an admission followed by
fewer than `k` admissions. -/
theorem mem_rtake_admittedEntries {ttl : ℚ} {k : Nat} {e : String × ℚ} :
    ∀ {H : List ((String × ℚ) × Admission)}, e ∈ (admittedEntries ttl H).rtake k ↔
      ∃ g₁ n tj g₂, H = g₁ ++ ((n, tj), .admitted) :: g₂ ∧ e = (n, fadd tj ttl) ∧
        (admittedEntries ttl g₂).length < k
  | [] => by simp [admittedEntries]
  | x :: H => by
    rw [admittedEntries_cons]
    have ih := @mem_rtake_admittedEntries ttl k e H
    constructor
    · intro he
      split_ifs at he with hx
      · rw [rtake_cons, apply_ite (e ∈ ·), List.mem_cons] at he
        split_ifs at he with hlen
        · rcases he with rfl | he
          · exact ⟨[], x.1.1, x.1.2, H, by simp [← hx], rfl, hlen⟩
          · obtain ⟨g₁, n, tj, g₂, rfl, rfl, hg⟩ := ih.1 he
            exact ⟨x :: g₁, n, tj, g₂, rfl, rfl, hg⟩
        · obtain ⟨g₁, n, tj, g₂, rfl, rfl, hg⟩ := ih.1 he
          exact ⟨x :: g₁, n, tj, g₂, rfl, rfl, hg⟩
      · obtain ⟨g₁, n, tj, g₂, rfl, rfl, hg⟩ := ih.1 he
        exact ⟨x :: g₁, n, tj, g₂, rfl, rfl, hg⟩
    · rintro ⟨g₁, n, tj, g₂, hH, rfl, hg⟩
      cases g₁ with
      | nil =>
        obtain ⟨rfl, rfl⟩ := List.cons_eq_cons.1 hH
        simp [rtake_cons, hg]
      | cons y g₁ =>
        simp only [List.cons_append, List.cons.injEq] at hH
        obtain ⟨rfl, rfl⟩ := hH
        have he := ih.2 ⟨g₁, n, tj, g₂, rfl, rfl, hg⟩
        split_ifs
        · rw [rtake_cons]
          split_ifs
          · exact List.mem_cons_of_mem _ he
          · exact he
        · exact he

theorem deadline_of_mem_admittedEntries {ttl : ℚ} {H : List ((String × ℚ) × Admission)}
    {e : String × ℚ} (he : e ∈ admittedEntries ttl H) : ∃ x ∈ H, e.2 = fadd x.1.2 ttl := by
  obtain ⟨x, hx, hxe⟩ := List.mem_filterMap.1 he
  split_ifs at hxe
  cases hxe
  exact ⟨x, hx, rfl⟩

/-- The scan passes over entries that have all expired. -/
theorem evictExpired_append_of_expired {now : ℚ} {P C : List (String × ℚ)}
    (h : ∀ e ∈ P, e.2 < now) : evictExpired now (P ++ C) = evictExpired now C := by
  have hP : P.dropWhile (fun e => decide (now > e.2)) = [] :=
    List.dropWhile_eq_nil_iff.2 fun e he => by simpa using h e he
  simp [evictExpired, List.dropWhile_append, hP]

/-! ## 3. The invariant -/

/-- What the cache after a history `H` of calls, none later than `T`, satisfies: it holds the
newest `m` admitted entries but for a front part that expired before `T`. -/
structure HistoryInv (ttl : ℚ) (m : Nat) (c : NonceCache) (H : List ((String × ℚ) × Admission))
    (T : ℚ) : Prop where
  capacity : c.maxSize = m
  sorted : (admittedEntries ttl H).Pairwise fun a b => a.2 ≤ b.2
  before : ∀ x ∈ H, x.1.2 ≤ T
  newest : ∃ P, (admittedEntries ttl H).rtake m = P ++ c.entries ∧ ∀ e ∈ P, e.2 < T

section Step

variable {ttl : ℚ} {m : Nat} {c : NonceCache} {H : List ((String × ℚ) × Admission)} {T t : ℚ}

theorem historyInv_empty (ttl T : ℚ) (m : Nat) : HistoryInv ttl m (.empty m) [] T :=
  ⟨rfl, List.Pairwise.nil, by simp, ⟨[], by simp [admittedEntries, NonceCache.empty], by simp⟩⟩

/-- At a later call, what the scan leaves is the newest `m` admitted entries but for a front
part that has expired. -/
theorem HistoryInv.live (hi : HistoryInv ttl m c H T) (ht : T ≤ t) :
    ∃ R, (admittedEntries ttl H).rtake m = R ++ evictExpired t c.entries ∧ ∀ e ∈ R, e.2 < t := by
  obtain ⟨P, hP, hPlt⟩ := hi.newest
  refine ⟨P ++ c.entries.takeWhile fun e => decide (t > e.2), ?_, fun e he => ?_⟩
  · rw [hP, List.append_assoc, evictExpired, List.takeWhile_append_dropWhile]
  · rcases List.mem_append.1 he with he | he
    · exact lt_of_lt_of_le (hPlt e he) ht
    · simpa using List.mem_takeWhile_imp he

/-- A later call finds its nonce exactly when one of the newest `m` admitted entries holds it
with a deadline not yet passed. -/
theorem HistoryInv.mem_live_iff (hi : HistoryInv ttl m c H T) (ht : T ≤ t) (n : String) :
    n ∈ (evictExpired t c.entries).map Prod.fst ↔
      ∃ e ∈ (admittedEntries ttl H).rtake m, e.1 = n ∧ t ≤ e.2 := by
  obtain ⟨P, hP, -⟩ := hi.newest
  obtain ⟨R, hR, hRlt⟩ := hi.live ht
  have hs : c.entries.Pairwise fun a b => a.2 ≤ b.2 :=
    (hi.sorted.sublist (rtake_suffix _ m).sublist).sublist (hP ▸ List.sublist_append_right P _)
  rw [hR, List.mem_map]
  constructor
  · rintro ⟨e, he, rfl⟩
    exact ⟨e, List.mem_append_right R he, rfl, ((mem_evictExpired hs).1 he).2⟩
  · rintro ⟨e, he, rfl, hle⟩
    rcases List.mem_append.1 he with he | he
    · exact absurd (hRlt e he) (not_lt.2 hle)
    · exact ⟨e, he, rfl⟩

/-- **The step.** A call at a time no earlier than the history answers a replay exactly when
one of the newest `m` admitted entries holds its nonce with a deadline not yet passed, never
raises, and keeps the invariant with its own time as the bound. -/
theorem HistoryInv.step (hi : HistoryInv ttl m c H T) (n : String) (ht : T ≤ t) :
    ((c.checkAndAdd n ttl t).1 = .replay ↔
        ∃ e ∈ (admittedEntries ttl H).rtake m, e.1 = n ∧ t ≤ e.2) ∧
      (c.checkAndAdd n ttl t).1 ≠ .keyError ∧
      HistoryInv ttl m (c.checkAndAdd n ttl t).2
        (H ++ [((n, t), (c.checkAndAdd n ttl t).1)]) t := by
  have hfst : (c.checkAndAdd n ttl t).1 =
      if n ∈ (evictExpired t c.entries).map Prod.fst then .replay else .admitted := by
    rw [NonceCache.checkAndAdd, checkAndAddEntries_fst, hi.capacity,
      if_neg (not_lt.2 (Int.ofNat_nonneg m))]
  obtain ⟨R, hR, hRlt⟩ := hi.live ht
  have hbefore : ∀ x ∈ H ++ [((n, t), (c.checkAndAdd n ttl t).1)], x.1.2 ≤ t := fun x hx => by
    rcases List.mem_append.1 hx with hx | hx
    · exact (hi.before x hx).trans ht
    · rw [List.mem_singleton.1 hx]
  rw [← hi.mem_live_iff ht]
  by_cases hmem : n ∈ (evictExpired t c.entries).map Prod.fst
  · rw [if_pos hmem] at hfst
    have hsnd : (c.checkAndAdd n ttl t).2.entries = evictExpired t c.entries :=
      checkAndAddEntries_snd_of_replay hfst
    refine ⟨by simp [hfst, hmem], by simp [hfst], hi.capacity, ?_, hbefore, R, ?_, hRlt⟩
    · simpa [admittedEntries_append, hfst, admittedEntries] using hi.sorted
    · simpa [admittedEntries_append, hfst, admittedEntries, hsnd] using hR
  · rw [if_neg hmem] at hfst
    have hsnd : (c.checkAndAdd n ttl t).2.entries =
        (evictExpired t c.entries ++ [(n, fadd t ttl)]).rtake m := by
      show (checkAndAddEntries c.maxSize c.entries n ttl t).2 = _
      rw [(checkAndAddEntries_snd_of_admitted hfst).2.2, hi.capacity]
      simp [List.rtake]
    have hnew : admittedEntries ttl (H ++ [((n, t), (c.checkAndAdd n ttl t).1)]) =
        admittedEntries ttl H ++ [(n, fadd t ttl)] := by
      simp [admittedEntries_append, hfst, admittedEntries]
    obtain ⟨R', hR', hsuf⟩ := rtake_concat_of_eq (n, fadd t ttl) _ hR
    refine ⟨by simp [hfst, hmem], by simp [hfst], hi.capacity, ?_, hbefore, R', ?_,
      fun e he => hRlt e (hsuf.subset he)⟩
    · rw [hnew, List.pairwise_append]
      refine ⟨hi.sorted, by simp, fun e he _ hx => ?_⟩
      obtain ⟨x, hx', he2⟩ := deadline_of_mem_admittedEntries he
      rw [List.mem_singleton.1 hx, he2]
      exact fadd_le_fadd_right ((hi.before x hx').trans ht) ttl
    · rw [hnew, hR', hsnd]

/-- The newest `m` entries are at most `m`, and so is the cache. -/
theorem HistoryInv.length_le (hi : HistoryInv ttl m c H T) : c.entries.length ≤ m := by
  obtain ⟨P, hP, -⟩ := hi.newest
  have hlen := congrArg List.length hP
  simp only [List.rtake, List.length_drop, List.length_append] at hlen
  omega

/-- **The run lemma**: along a run at non-decreasing times no earlier than the history, every
call answers as `HistoryInv.step` says from the history before it, and the cache after the run
satisfies the invariant for the whole history. -/
theorem HistoryInv.trace_spec (calls : List (String × ℚ)) (hi : HistoryInv ttl m c H T)
    (hsorted : calls.Pairwise fun a b => a.2 ≤ b.2) (hT : ∀ x ∈ calls, T ≤ x.2) :
    (∀ h₁ n t a h₂, trace ttl c calls = h₁ ++ ((n, t), a) :: h₂ → a ≠ .keyError ∧
      (a = .replay ↔ ∃ e ∈ (admittedEntries ttl (H ++ h₁)).rtake m, e.1 = n ∧ t ≤ e.2)) ∧
    ∃ T', HistoryInv ttl m (after ttl c calls) (H ++ trace ttl c calls) T' := by
  induction calls generalizing c H T with
  | nil => exact ⟨fun h₁ _ _ _ _ h => absurd h.symm (by simp [trace]), T, by simpa [after, trace]⟩
  | cons x rest ih =>
    obtain ⟨n₀, t₀⟩ := x
    obtain ⟨hans, hkey, hi'⟩ := hi.step n₀ (hT (n₀, t₀) (.head _) : T ≤ t₀)
    obtain ⟨hcalls, T', hafter⟩ :=
      ih hi' (List.pairwise_cons.1 hsorted).2 (List.pairwise_cons.1 hsorted).1
    refine ⟨fun h₁ n t a h₂ h => ?_, T', by simpa [after, trace] using hafter⟩
    cases h₁ with
    | nil =>
      simp only [trace, List.nil_append, List.cons.injEq, Prod.mk.injEq] at h
      obtain ⟨⟨⟨rfl, rfl⟩, rfl⟩, -⟩ := h
      exact ⟨hkey, by simpa using hans⟩
    | cons y h₁ =>
      simp only [trace, List.cons_append, List.cons.injEq] at h
      obtain ⟨rfl, h⟩ := h
      simpa using hcalls h₁ n t a h₂ h

end Step

/-! ## 4. The answers from the history alone -/

theorem exists_le_times (calls : List (String × ℚ)) : ∃ T : ℚ, ∀ x ∈ calls, T ≤ x.2 := by
  induction calls with
  | nil => exact ⟨0, by simp⟩
  | cons x rest ih =>
    obtain ⟨T, hT⟩ := ih
    refine ⟨min x.2 T, fun y hy => ?_⟩
    rcases List.mem_cons.1 hy with rfl | hy
    · exact min_le_left _ _
    · exact (min_le_right _ _).trans (hT y hy)

/-- The newest `m` admitted entries of a history hold `n` with a deadline from `t` on exactly
when an admission of `n` whose float deadline `t` has not passed was followed by fewer than
`m` admissions. -/
theorem exists_newest_iff {ttl t : ℚ} {m : Nat} (H : List ((String × ℚ) × Admission))
    (n : String) :
    (∃ e ∈ (admittedEntries ttl H).rtake m, e.1 = n ∧ t ≤ e.2) ↔
      ∃ g₁ tj g₂, H = g₁ ++ ((n, tj), .admitted) :: g₂ ∧ t ≤ fadd tj ttl ∧
        (g₂.map Prod.snd).count .admitted < m := by
  constructor
  · rintro ⟨e, he, rfl, hle⟩
    obtain ⟨g₁, n', tj, g₂, rfl, rfl, hg⟩ := mem_rtake_admittedEntries.1 he
    exact ⟨g₁, tj, g₂, rfl, hle, length_admittedEntries ttl g₂ ▸ hg⟩
  · rintro ⟨g₁, tj, g₂, rfl, hle, hg⟩
    exact ⟨(n, fadd tj ttl), mem_rtake_admittedEntries.2
      ⟨g₁, n, tj, g₂, rfl, rfl, length_admittedEntries ttl g₂ ▸ hg⟩, rfl, hle⟩

/-- **The nonce cache answers from its history.** From an empty `LRUNonceCache` with
`_max_size ≥ 0`, along any calls with one `ttl` at non-decreasing times, the trace lists the
calls in order; no call raises; a call at `t` is a replay (`False`) exactly when an earlier
call at `tj` with the same nonce was admitted (`True`), `t` is at most the float sum
`tj + ttl`, and fewer than `_max_size` calls in between were admitted; and after every prefix of
the calls the cache holds at most `_max_size` entries. -/
theorem nonce_cache_answers_from_history (ttl : ℚ) (maxSize : Int) (hmax : 0 ≤ maxSize)
    (calls : List (String × ℚ)) (hsorted : calls.Pairwise fun a b => a.2 ≤ b.2) :
    (trace ttl (.empty maxSize) calls).map Prod.fst = calls ∧
    (∀ h₁ n t a h₂, trace ttl (.empty maxSize) calls = h₁ ++ ((n, t), a) :: h₂ →
      a ≠ .keyError ∧
      (a = .replay ↔ ∃ g₁ tj g₂, h₁ = g₁ ++ ((n, tj), .admitted) :: g₂ ∧ t ≤ fadd tj ttl ∧
        ((g₂.map Prod.snd).count .admitted : Int) < maxSize)) ∧
    ∀ k, ((after ttl (.empty maxSize) (calls.take k)).entries.length : Int) ≤ maxSize := by
  obtain ⟨m, rfl⟩ := Int.eq_ofNat_of_zero_le hmax
  obtain ⟨T, hT⟩ := exists_le_times calls
  refine ⟨trace_map_fst ttl _ calls, fun h₁ n t a h₂ h => ?_, fun k => ?_⟩
  · obtain ⟨hkey, hans⟩ :=
      (HistoryInv.trace_spec calls (historyInv_empty ttl T m) hsorted hT).1 h₁ n t a h₂ h
    refine ⟨hkey, hans.trans ?_⟩
    rw [List.nil_append, exists_newest_iff]
    simp only [Nat.cast_lt]
  · obtain ⟨-, T', hi⟩ := HistoryInv.trace_spec (calls.take k) (historyInv_empty ttl T m)
      (hsorted.sublist (List.take_sublist k calls)) fun x hx => hT x (List.mem_of_mem_take hx)
    exact_mod_cast hi.length_le

/-- Three calls a second apart on a cache of one entry: `a`, `b`, then `a` again. -/
def threeCalls : List (String × ℚ) := [("a", 0), ("b", 1), ("a", 2)]

/-- The history theorem on the three calls with a `ttl` of 60 and one entry of capacity. -/
theorem three_calls_on_one_entry :
    (0 : Int) ≤ 1 ∧ threeCalls.Pairwise (fun a b => a.2 ≤ b.2) ∧
    ((trace 60 (.empty 1) threeCalls).map Prod.fst = threeCalls ∧
    (∀ h₁ n t a h₂, trace 60 (.empty 1) threeCalls = h₁ ++ ((n, t), a) :: h₂ →
      a ≠ .keyError ∧
      (a = .replay ↔ ∃ g₁ tj g₂, h₁ = g₁ ++ ((n, tj), .admitted) :: g₂ ∧ t ≤ fadd tj 60 ∧
        ((g₂.map Prod.snd).count .admitted : Int) < 1)) ∧
    ∀ k, ((after 60 (.empty 1) (threeCalls.take k)).entries.length : Int) ≤ 1) := by
  have hsorted : threeCalls.Pairwise (fun a b => a.2 ≤ b.2) := by
    simp [threeCalls]
  exact ⟨by decide, hsorted, nonce_cache_answers_from_history 60 1 (by decide) threeCalls hsorted⟩

/-! ## 5. The float deadline -/

/-- Two readings of `time.monotonic()` sixty seconds apart to the nanosecond: the floats nearest
to `1005.207092603` and to `1065.207092603`. -/
def minuteApart : List (String × ℚ) :=
  [("a", 8841895093119239 / 8796093022208), ("a", 1171207584306465 / 1099511627776)]

/-- The exact sum of the first reading and 60 lies halfway between two floats, and rounding
to the even one gives the second reading. -/
theorem fadd_first_reading_sixty :
    fadd (8841895093119239 / 8796093022208) 60 = 1171207584306465 / 1099511627776 := by
  rw [fadd, roundBinary64_of_binade (e := 10) (by norm_num) (by norm_num) (by norm_num)
    (by norm_num), roundHalfEven,
    Int.floor_eq_iff.2 (show ((4684830337225859 : ℤ) : ℚ) ≤ _ ∧ _ by norm_num)]
  norm_num

/-- **A call past the exact deadline is still a replay.** The second call comes strictly more
than `ttl = 60` after the first admitted the same nonce, yet `check_and_add` answers it `False`:
the deadline it stored is the float sum, which rounded up to the second reading, and
`_evict_expired` keeps an entry whose deadline equals the clock. -/
theorem replay_past_exact_deadline :
    (8841895093119239 / 8796093022208 : ℚ) + 60 < 1171207584306465 / 1099511627776 ∧
      (trace 60 (.empty 10000) minuteApart).map Prod.snd = [.admitted, .replay] := by
  refine ⟨by norm_num, ?_⟩
  simp [minuteApart, trace, NonceCache.checkAndAdd, checkAndAddEntries, evictExpired,
    popOverCapacity, NonceCache.empty, fadd_first_reading_sixty]

end Sidecar
end Cheval
