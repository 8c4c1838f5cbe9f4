import Mathlib.Algebra.Order.Field.Rat
import Mathlib.Data.List.Nodup
import Mathlib.Tactic.Linarith
import Cheval.Python.Float

/-!
# `LRUNonceCache` — the sidecar's replay cache

`cheval_server.py` remembers each nonce it admits in an `OrderedDict` from the nonce to a
monotonic deadline, oldest first. `check_and_add` drops expired entries from the old end,
**stopping at the first live one**, answers a replay if the nonce is still there, and
otherwise appends it and pops the oldest entries while the dict is over `_max_size`.

Two facts about that code shape this file.

* The early stop removes *every* expired entry only when deadlines are in insertion order.
  `Ordered` is that representation invariant, and every `Reachable` state has it
  (`Reachable.ordered`); on such states the scan is exactly the filter that deletes every
  expired entry and keeps the others in order (`evict_expired_scan_is_filter`).
* `_max_size` is `int(CHEVAL_NONCE_CACHE_SIZE)`, which nothing keeps non-negative. Below
  zero the pop loop empties the dict and `popitem` raises `KeyError`; `Admission.keyError`
  is that outcome, and `popOverCapacity_eq` says exactly when it happens.

Times are monotonic readings in seconds. The deadline `now + ttl_seconds` is a sum of floats,
so the cache stores it rounded (`fadd`); rounding is monotone, which is what keeps deadlines in
insertion order.
-/

set_option autoImplicit false

namespace Cheval
namespace Sidecar

open Python

/-! ## 1. The cache and its two loops -/

/-- `LRUNonceCache`: the items of `_cache`, oldest first, each a nonce and its deadline, and
`_max_size`. An `OrderedDict` holds each key once, and the structure keeps that as a field. -/
structure NonceCache where
  entries : List (String × ℚ)
  maxSize : Int
  nodup : (entries.map Prod.fst).Nodup

/-- `LRUNonceCache(max_size)`. -/
def NonceCache.empty (maxSize : Int) : NonceCache := ⟨[], maxSize, List.nodup_nil⟩

/-- `_evict_expired(now)`: collect entries from the oldest end while `now > expiry`, `break`
at the first that is not expired, then `del` the collected keys. The keys are distinct, so
the deletions drop exactly the scanned prefix. -/
def evictExpired (now : ℚ) (entries : List (String × ℚ)) : List (String × ℚ) :=
  entries.dropWhile fun e => decide (now > e.2)

/-- `while len(self._cache) > self._max_size: self._cache.popitem(last=False)`; `none` when
`popitem` meets the empty dict and raises `KeyError`. -/
def popOverCapacity (maxSize : Int) : List (String × ℚ) → Option (List (String × ℚ))
  | [] => if maxSize < 0 then none else some []
  | e :: rest =>
    if maxSize < ((e :: rest).length : Int) then popOverCapacity maxSize rest
    else some (e :: rest)

/-- What `check_and_add` ends with: `True` (a new nonce, now recorded), `False` (a replay),
or the `KeyError` that escapes the pop loop. -/
inductive Admission where
  | admitted
  | replay
  | keyError
  deriving DecidableEq, Repr

/-- The body of `check_and_add(nonce, ttl_seconds)` on the items, with `time.monotonic()`
read as `now`. The items are returned on the raising path too: the mutations made before the
`KeyError` stay, and by then the pop loop has emptied the dict. -/
def checkAndAddEntries (maxSize : Int) (entries : List (String × ℚ)) (nonce : String)
    (ttl now : ℚ) : Admission × List (String × ℚ) :=
  let live := evictExpired now entries
  if nonce ∈ live.map Prod.fst then (.replay, live)
  else
    match popOverCapacity maxSize (live ++ [(nonce, fadd now ttl)]) with
    | some kept => (.admitted, kept)
    | none => (.keyError, [])

/-! ## 2. What the loops keep -/

theorem evictExpired_suffix (now : ℚ) (l : List (String × ℚ)) : evictExpired now l <:+ l :=
  List.dropWhile_suffix _

/-- The pop loop keeps the newest `_max_size` entries, and raises exactly when `_max_size`
is negative. -/
theorem popOverCapacity_eq (maxSize : Int) (l : List (String × ℚ)) :
    popOverCapacity maxSize l =
      if maxSize < 0 then none else some (l.drop (l.length - maxSize.toNat)) := by
  induction l with
  | nil => simp [popOverCapacity]
  | cons e rest ih =>
    rw [popOverCapacity, ih]
    simp only [List.length_cons]
    by_cases hneg : maxSize < 0
    · have hlt : maxSize < ((rest.length + 1 : Nat) : Int) := by omega
      simp only [hlt, hneg, if_true]
    · by_cases hlt : maxSize < (rest.length + 1 : Nat)
      · simp only [hlt, hneg, if_true, if_false]
        rw [show rest.length + 1 - maxSize.toNat = (rest.length - maxSize.toNat) + 1 by omega]
        rfl
      · simp only [hlt, hneg, if_false]
        rw [show rest.length + 1 - maxSize.toNat = 0 by omega]
        rfl

theorem popOverCapacity_suffix {maxSize : Int} {l l' : List (String × ℚ)}
    (h : popOverCapacity maxSize l = some l') : l' <:+ l := by
  rw [popOverCapacity_eq] at h
  split_ifs at h
  cases h
  exact List.drop_suffix _ _

theorem nodup_checkAndAddEntries {maxSize : Int} {l : List (String × ℚ)} (nonce : String)
    (ttl now : ℚ) (hl : (l.map Prod.fst).Nodup) :
    ((checkAndAddEntries maxSize l nonce ttl now).2.map Prod.fst).Nodup := by
  have hlive := hl.sublist ((evictExpired_suffix now l).sublist.map Prod.fst)
  dsimp only [checkAndAddEntries]
  split_ifs with hmem
  · exact hlive
  · have happ : ((evictExpired now l ++ [(nonce, fadd now ttl)]).map Prod.fst).Nodup := by
      simpa [List.nodup_append, hmem] using hlive
    split
    · next kept h => exact happ.sublist ((popOverCapacity_suffix h).sublist.map Prod.fst)
    · exact List.nodup_nil

/-- `check_and_add` as a method: the answer, and the cache it leaves. -/
def NonceCache.checkAndAdd (c : NonceCache) (nonce : String) (ttl now : ℚ) :
    Admission × NonceCache :=
  ((checkAndAddEntries c.maxSize c.entries nonce ttl now).1,
   ⟨(checkAndAddEntries c.maxSize c.entries nonce ttl now).2, c.maxSize,
    nodup_checkAndAddEntries nonce ttl now c.nodup⟩)

/-- A nonce is live at `now` when the cache holds it with a deadline `now` has not passed:
`_evict_expired` would keep it. -/
def NonceCache.Live (c : NonceCache) (nonce : String) (now : ℚ) : Prop :=
  ∃ e ∈ c.entries, e.1 = nonce ∧ now ≤ e.2

instance (c : NonceCache) (nonce : String) (now : ℚ) : Decidable (c.Live nonce now) :=
  inferInstanceAs (Decidable (∃ e ∈ c.entries, e.1 = nonce ∧ now ≤ e.2))

/-! ## 3. The scan is a filter on ordered states -/

/-- Deadlines in insertion order, none beyond the float sum `now + ttl`: what every state
reached with one `ttl` at non-decreasing times satisfies at its latest reading `now`. -/
structure Ordered (ttl now : ℚ) (entries : List (String × ℚ)) : Prop where
  sorted : entries.Pairwise fun a b => a.2 ≤ b.2
  bounded : ∀ e ∈ entries, e.2 ≤ fadd now ttl

theorem Ordered.suffix {ttl now : ℚ} {l l' : List (String × ℚ)} (h : Ordered ttl now l)
    (hs : l' <:+ l) : Ordered ttl now l' :=
  ⟨h.sorted.sublist hs.sublist, fun e he => h.bounded e (hs.subset he)⟩

/-- The scan removes only expired entries, whatever the order. -/
theorem lt_of_evicted {now : ℚ} {l : List (String × ℚ)} {e : String × ℚ} (he : e ∈ l)
    (hn : e ∉ evictExpired now l) : e.2 < now := by
  induction l with
  | nil => simp at he
  | cons x xs ih =>
    by_cases hx : now > x.2
    · have hd : evictExpired now (x :: xs) = evictExpired now xs := by
        simp [evictExpired, List.dropWhile_cons, hx]
      rw [hd] at hn
      rcases List.mem_cons.1 he with rfl | he
      · exact hx
      · exact ih he hn
    · exact absurd (by simpa [evictExpired, List.dropWhile_cons, hx] using he) hn

/-- On sorted deadlines the early-stopping scan is the full filter: it deletes exactly the
expired entries and keeps the rest in their order. -/
theorem evictExpired_eq_filter {now : ℚ} {l : List (String × ℚ)}
    (hs : l.Pairwise fun a b => a.2 ≤ b.2) :
    evictExpired now l = l.filter fun e => !decide (now > e.2) := by
  induction l with
  | nil => rfl
  | cons x xs ih =>
    rw [List.pairwise_cons] at hs
    by_cases hx : now > x.2
    · rw [evictExpired, List.dropWhile_cons_of_pos (by simpa using hx),
        List.filter_cons_of_neg (by simpa using hx)]
      exact ih hs.2
    · rw [evictExpired, List.dropWhile_cons_of_neg (by simpa using hx),
        List.filter_cons_of_pos (by simpa using hx), List.filter_eq_self.2]
      intro e he
      simpa using (not_lt.1 hx).trans (hs.1 e he)

/-- On sorted deadlines the early-stopping scan keeps exactly the live entries. -/
theorem mem_evictExpired {now : ℚ} {l : List (String × ℚ)}
    (hs : l.Pairwise fun a b => a.2 ≤ b.2) {e : String × ℚ} :
    e ∈ evictExpired now l ↔ e ∈ l ∧ now ≤ e.2 := by
  simp [evictExpired_eq_filter hs]

theorem Ordered.checkAndAdd {ttl now : ℚ} {l : List (String × ℚ)} (h : Ordered ttl now l)
    (maxSize : Int) (nonce : String) :
    Ordered ttl now (checkAndAddEntries maxSize l nonce ttl now).2 := by
  have hlive := h.suffix (evictExpired_suffix now l)
  dsimp only [checkAndAddEntries]
  split_ifs
  · exact hlive
  · have happ : Ordered ttl now (evictExpired now l ++ [(nonce, fadd now ttl)]) := by
      refine ⟨List.pairwise_append.2 ⟨hlive.sorted, by simp, ?_⟩, fun e he => ?_⟩
      · simpa using hlive.bounded
      · rcases List.mem_append.1 he with he | he
        · exact hlive.bounded e he
        · rw [List.mem_singleton.1 he]
    split
    · next kept hk => exact happ.suffix (popOverCapacity_suffix hk)
    · exact ⟨List.Pairwise.nil, by simp⟩

/-- An entry the scan would keep stays: the scan drops only expired entries. -/
theorem mem_evictExpired_of_le {now : ℚ} {l : List (String × ℚ)} {e : String × ℚ} (he : e ∈ l)
    (hle : now ≤ e.2) : e ∈ evictExpired now l :=
  by_contra fun hn => absurd hle (not_le.2 (lt_of_evicted he hn))

/-- Liveness survives the scan, on any state. -/
theorem live_evictExpired_iff (c : NonceCache) (nonce : String) (now : ℚ) :
    (∃ e ∈ evictExpired now c.entries, e.1 = nonce ∧ now ≤ e.2) ↔ c.Live nonce now :=
  ⟨fun ⟨e, he, hn, hle⟩ => ⟨e, (evictExpired_suffix now _).subset he, hn, hle⟩,
   fun ⟨e, he, hn, hle⟩ => ⟨e, mem_evictExpired_of_le he hle, hn, hle⟩⟩

/-- `check_and_add`'s answer: a replay exactly when the scan leaves the nonce, otherwise a
new entry, or the `KeyError` of a negative capacity. -/
theorem checkAndAddEntries_fst (maxSize : Int) (l : List (String × ℚ)) (nonce : String)
    (ttl now : ℚ) :
    (checkAndAddEntries maxSize l nonce ttl now).1 =
      if nonce ∈ (evictExpired now l).map Prod.fst then .replay
      else if maxSize < 0 then .keyError else .admitted := by
  dsimp only [checkAndAddEntries]
  rw [popOverCapacity_eq]
  split_ifs <;> rfl

/-- A replay leaves the cache as the scan left it. -/
theorem checkAndAddEntries_snd_of_replay {maxSize : Int} {l : List (String × ℚ)}
    {nonce : String} {ttl now : ℚ}
    (h : (checkAndAddEntries maxSize l nonce ttl now).1 = .replay) :
    (checkAndAddEntries maxSize l nonce ttl now).2 = evictExpired now l := by
  rw [checkAndAddEntries_fst] at h
  dsimp only [checkAndAddEntries]
  split_ifs at h ⊢
  rfl

/-- An admission appends the nonce after the scan and keeps the newest `_max_size` items. -/
theorem checkAndAddEntries_snd_of_admitted {maxSize : Int} {l : List (String × ℚ)}
    {nonce : String} {ttl now : ℚ}
    (h : (checkAndAddEntries maxSize l nonce ttl now).1 = .admitted) :
    nonce ∉ (evictExpired now l).map Prod.fst ∧ 0 ≤ maxSize ∧
    (checkAndAddEntries maxSize l nonce ttl now).2 =
      (evictExpired now l ++ [(nonce, fadd now ttl)]).drop
        ((evictExpired now l).length + 1 - maxSize.toNat) := by
  rw [checkAndAddEntries_fst] at h
  dsimp only [checkAndAddEntries]
  split_ifs at h ⊢ with hmem hneg
  refine ⟨hmem, not_lt.1 hneg, ?_⟩
  simp [popOverCapacity_eq, hneg]

/-- The `KeyError` leaves the dict empty, and only a negative capacity raises it. -/
theorem checkAndAddEntries_snd_of_keyError {maxSize : Int} {l : List (String × ℚ)}
    {nonce : String} {ttl now : ℚ}
    (h : (checkAndAddEntries maxSize l nonce ttl now).1 = .keyError) :
    maxSize < 0 ∧ (checkAndAddEntries maxSize l nonce ttl now).2 = [] := by
  rw [checkAndAddEntries_fst] at h
  dsimp only [checkAndAddEntries]
  split_ifs at h ⊢ with hmem hneg
  simp [popOverCapacity_eq, hneg]

/-- On an ordered cache the scan leaves a nonce exactly when it is live. -/
theorem NonceCache.mem_evictExpired_iff_live {ttl now : ℚ} {c : NonceCache} (nonce : String)
    (hc : Ordered ttl now c.entries) :
    nonce ∈ (evictExpired now c.entries).map Prod.fst ↔ c.Live nonce now := by
  rw [← live_evictExpired_iff, List.mem_map]
  exact ⟨fun ⟨e, he, hn⟩ => ⟨e, he, hn, ((mem_evictExpired hc.sorted).1 he).2⟩,
    fun ⟨e, he, hn, _⟩ => ⟨e, he, hn⟩⟩

/-- **On an ordered cache `check_and_add` answers from liveness and capacity alone.** -/
theorem NonceCache.checkAndAdd_fst {ttl now : ℚ} {c : NonceCache} (nonce : String)
    (hc : Ordered ttl now c.entries) :
    (c.checkAndAdd nonce ttl now).1 =
      if c.Live nonce now then .replay else if c.maxSize < 0 then .keyError else .admitted := by
  simp only [checkAndAdd, checkAndAddEntries_fst, c.mem_evictExpired_iff_live nonce hc]

/-- Whatever the state, an admitted nonce was not live. -/
theorem NonceCache.not_live_of_admitted {ttl now : ℚ} {c : NonceCache} {nonce : String}
    (h : (c.checkAndAdd nonce ttl now).1 = .admitted) : ¬ c.Live nonce now := by
  rintro hl
  obtain ⟨e, he, hn, -⟩ := (live_evictExpired_iff c nonce now).2 hl
  simp only [checkAndAdd, checkAndAddEntries_fst] at h
  rw [if_pos (List.mem_map.2 ⟨e, he, hn⟩)] at h
  cases h

/-- A replay changes no live nonce. -/
theorem NonceCache.live_checkAndAdd_of_replay {ttl now : ℚ} {c : NonceCache} {nonce : String}
    (h : (c.checkAndAdd nonce ttl now).1 = .replay) (k : String) :
    (c.checkAndAdd nonce ttl now).2.Live k now ↔ c.Live k now := by
  simp only [checkAndAdd] at h ⊢
  rw [← live_evictExpired_iff c k now]
  simp only [Live, checkAndAddEntries_snd_of_replay h]

/-! ## 4. Reachable states -/

/-- States the sidecar's calls reach from the empty cache of capacity `maxSize`, every call
with the deadline offset `ttl`, at non-decreasing monotonic times; `now` is the clock. -/
inductive Reachable (ttl : ℚ) (maxSize : Int) : ℚ → NonceCache → Prop
  | init (now : ℚ) : Reachable ttl maxSize now (.empty maxSize)
  | wait {now now' : ℚ} {c : NonceCache} :
      Reachable ttl maxSize now c → now ≤ now' → Reachable ttl maxSize now' c
  | call {now : ℚ} {c : NonceCache} (nonce : String) :
      Reachable ttl maxSize now c → Reachable ttl maxSize now (c.checkAndAdd nonce ttl now).2

theorem Reachable.maxSize_eq {ttl now : ℚ} {maxSize : Int} {c : NonceCache}
    (h : Reachable ttl maxSize now c) : c.maxSize = maxSize := by
  induction h with
  | init => rfl
  | wait _ _ ih => exact ih
  | call _ _ ih => exact ih

theorem Reachable.ordered {ttl now : ℚ} {maxSize : Int} {c : NonceCache}
    (h : Reachable ttl maxSize now c) : Ordered ttl now c.entries := by
  induction h with
  | init => exact ⟨List.Pairwise.nil, by simp [NonceCache.empty]⟩
  | wait _ hle ih =>
    exact ⟨ih.sorted, fun e he => (ih.bounded e he).trans (fadd_le_fadd_right hle _)⟩
  | call nonce _ ih => exact ih.checkAndAdd _ nonce

/-- **The early exit of `_evict_expired` is sound.** In every state the cache's own calls reach,
with one `ttl` and a non-decreasing clock, the deadlines are non-decreasing in insertion order;
so the scan at any reading `now'`, which stops at the first entry not expired, deletes exactly
the entries whose deadline `now'` has passed and keeps the others in their order. -/
theorem evict_expired_scan_is_filter {ttl now : ℚ} {maxSize : Int} {c : NonceCache}
    (h : Reachable ttl maxSize now c) :
    c.entries.Pairwise (fun a b => a.2 ≤ b.2) ∧
      ∀ now' : ℚ, evictExpired now' c.entries = c.entries.filter fun e => !decide (now' > e.2) :=
  ⟨h.ordered.sorted, fun _ => evictExpired_eq_filter h.ordered.sorted⟩

/-- The cache after admitting `"a"` at time 0 and `"b"` at time 2, with a `ttl` of 60 and room
for ten. -/
def twoAdmitted : NonceCache :=
  (((NonceCache.empty 10).checkAndAdd "a" 60 0).2.checkAndAdd "b" 60 2).2

theorem two_admitted_scan_is_filter :
    Reachable 60 10 2 twoAdmitted ∧
      (twoAdmitted.entries.Pairwise (fun a b => a.2 ≤ b.2) ∧
        ∀ now' : ℚ,
          evictExpired now' twoAdmitted.entries =
            twoAdmitted.entries.filter fun e => !decide (now' > e.2)) := by
  have h : Reachable 60 10 2 twoAdmitted :=
    .call "b" (.wait (.call "a" (.init 0)) (by norm_num))
  exact ⟨h, evict_expired_scan_is_filter h⟩

end Sidecar
end Cheval
