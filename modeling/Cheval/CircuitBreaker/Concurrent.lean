import Cheval.CircuitBreaker

/-!
# Concurrent calls on one breaker file

`circuit_breaker.py` calls its counting "best-effort": concurrent read-modify-write races are
meant to be "intentional and self-correcting". `_read_state` reads the file with no lock, and
`_write_state` holds `flock` only around its own truncate and write. So calls made by
concurrent processes interleave: a call reads the file and the clock, computes from what it
read, and later, if it writes at all, takes the lock, truncates the file and writes its state,
while other calls read and write in between. A read between a writer's truncate and its write
finds an empty file, which `json.load` rejects, so it reads the default state, as with no file
(`File.readState_empty`); so does a read of a write in progress, no proper prefix of a JSON
object being one.

`Sys` is the file with each call's phase, and `Step` one read, one lock-and-truncate or one
write, of any call, in any order. The sequential model (`Call.run`) is what each call computes
from what it read; `Call.writes` says which calls reach `_write_state`, and a call that does
not leaves whatever the file holds by then (`Call.run_of_not_writes`).

Two things hold across every interleaving:

* **The breaker invariant** (`concurrent_runs_keep_breaker_invariant`). `Inv` of the
  sequential model holds for the file and for every state a call in flight is about to write:
  that state is the sequential step from a file that satisfied `Inv` at an earlier reading.
* **Failures are lost, never added** (`concurrent_failures_never_overcounted`). The file's
  `failure_count` never exceeds the number of `record_failure` calls that have read the file,
  so a `record_failure` trips a CLOSED breaker only once at least `failure_threshold` of them
  have. Two calls that read one count both write that count plus one
  (`racing_failures_lose_one`), so the converse fails: races only delay a trip.

`Sys.log` records which calls have read, in order. No step reads it; it only names the
failures the count is compared with.
-/

set_option autoImplicit false

namespace Cheval
namespace CircuitBreaker

/-! ## 1. Which calls write -/

/-- Whether a call reaches `_write_state` on the file it read, with `time.time()` at `now`:
`check_state` on an OPEN file past its reset timeout, `record_failure` always, `record_success`
on HALF_OPEN or on CLOSED with failures counted, `increment_probe` on HALF_OPEN. -/
def Call.writes (cfg : Config) (now : ℚ) : Call → Option BreakerState → Prop
  | .checkState, file => (readState file).state = "OPEN" ∧ truthy (readState file).openedAt ∧
      now - (readState file).openedAt.getD 0 ≥ cfg.resetTimeoutSeconds
  | .recordFailure, _ => True
  | .recordSuccess, file => (readState file).state = "HALF_OPEN" ∨
      ((readState file).state = "CLOSED" ∧ (readState file).failureCount > 0)
  | .incrementProbe, file => (readState file).state = "HALF_OPEN"

instance (cfg : Config) (now : ℚ) (c : Call) (file : Option BreakerState) :
    Decidable (c.writes cfg now file) :=
  match c with
  | .checkState => inferInstanceAs (Decidable (_ ∧ _ ∧ _))
  | .recordFailure => inferInstanceAs (Decidable True)
  | .recordSuccess => inferInstanceAs (Decidable (_ ∨ _))
  | .incrementProbe => inferInstanceAs (Decidable (_ = _))

/-- `record_failure`, the one call whose runs are counted. -/
def Call.isRecordFailure : Call → Bool
  | .recordFailure => true
  | _ => false

variable {cfg : Config} {now : ℚ} {file : Option BreakerState}

/-- A call that does not write leaves the file as it read it. -/
theorem Call.run_of_not_writes {c : Call} (h : ¬ c.writes cfg now file) :
    c.run cfg now file = file := by
  cases c with
  | checkState =>
    simp only [Call.writes] at h
    simp only [Call.run, CircuitBreaker.checkState]
    split_ifs <;> simp_all
  | recordFailure => exact absurd trivial h
  | recordSuccess =>
    simp only [Call.writes, not_or, not_and] at h
    simp only [Call.run, CircuitBreaker.recordSuccess]
    split_ifs <;> simp_all
  | incrementProbe =>
    simp only [Call.run, CircuitBreaker.incrementProbe]
    exact if_neg h

/-- Every call but `record_failure` keeps the count or clears it. -/
theorem Call.failureCount_run_le {c : Call} (hc : c.isRecordFailure = false) :
    (readState (c.run cfg now file)).failureCount ≤ max (readState file).failureCount 0 := by
  cases c with
  | checkState =>
    simp only [Call.run, CircuitBreaker.checkState]
    split_ifs <;> dsimp only [readState, Option.getD_some] <;> omega
  | recordFailure => exact absurd hc (by decide)
  | recordSuccess =>
    simp only [Call.run, CircuitBreaker.recordSuccess]
    split_ifs <;> dsimp only [readState, Option.getD_some, defaultState] <;> omega
  | incrementProbe =>
    simp only [Call.run, CircuitBreaker.incrementProbe]
    split_ifs <;> dsimp only [readState, Option.getD_some] <;> omega

/-- The count `record_failure` writes: its own failure added to the count it read, or to zero
when the last failure is outside the window. -/
theorem failureCount_recordFailure_le :
    (readState (recordFailure cfg now file).2).failureCount ≤
      max ((readState file).failureCount + 1) 1 := by
  simp only [CircuitBreaker.recordFailure]
  split_ifs <;> dsimp only [readState, Option.getD_some] <;> omega

/-- A `record_failure` that trips a CLOSED breaker has counted at least the threshold. -/
theorem threshold_le_of_trip (hc : (readState file).state = "CLOSED")
    (ho : (recordFailure cfg now file).1 = "OPEN") :
    cfg.failureThreshold ≤ ((max ((readState file).failureCount + 1) 1 : Int) : ℚ) := by
  have hh : (readState file).state ≠ "HALF_OPEN" := by rw [hc]; decide
  simp only [CircuitBreaker.recordFailure] at ho
  rw [if_neg hh, if_pos hc] at ho
  generalize hk : (if truthy (readState file).lastFailureTs ∧
    now - (readState file).lastFailureTs.getD 0 > cfg.countWindowSeconds then 0
    else (readState file).failureCount) = kept at ho
  have hkept : kept + 1 ≤ max ((readState file).failureCount + 1) 1 := by
    rw [← hk]; split_ifs <;> simp
  split_ifs at ho with hthr
  · exact hthr.trans (by exact_mod_cast hkept)
  · simp at ho

/-- The count a call writes exceeds the count it read only by a `record_failure`'s own
failure. -/
theorem failureCount_run_le_add {n : Int} (hn : 0 ≤ n) (hb : (readState file).failureCount ≤ n)
    (c : Call) :
    (readState (c.run cfg now file)).failureCount ≤ n + if c.isRecordFailure then 1 else 0 := by
  cases hc : c.isRecordFailure
  · have := @Call.failureCount_run_le cfg now file _ hc
    simp only [Bool.false_eq_true, if_false, add_zero]
    omega
  · cases c <;> simp only [Call.isRecordFailure, Bool.false_eq_true] at hc
    have := @failureCount_recordFailure_le cfg now file
    simp only [Call.run, if_true]
    omega

namespace Concurrent

/-! ## 2. The system -/

/-- Where one call is: not started; having read `file`, with `time.time()` at `now`, and
waiting for the lock to write; holding the lock, the file truncated; or finished. -/
inductive Phase where
  | ready
  | waiting (file : Option BreakerState) (now : ℚ)
  | writing (file : Option BreakerState) (now : ℚ)
  | done (file : Option BreakerState) (now : ℚ)

/-- What a call read, and its clock reading, once it has read. -/
def Phase.read? : Phase → Option (Option BreakerState × ℚ)
  | .ready => none
  | .waiting file now | .writing file now | .done file now => some (file, now)

/-- The state a call in flight will write. -/
def Phase.pending (cfg : Config) (c : Call) : Phase → Option (Option BreakerState)
  | .waiting file now | .writing file now => some (c.run cfg now file)
  | _ => none

/-- The breaker file of one provider with the calls made on it: the clock, the file (`none`
while it reads as the default: absent, or truncated by a writer), whether a writer holds the
lock, each call's phase, and the calls in the order they read. -/
structure Sys where
  clock : ℚ
  file : Option BreakerState
  locked : Bool
  phase : Nat → Phase
  log : List Nat

section Run

variable (cfg : Config) (calls : Nat → Call)

/-- No file, no call started. -/
def Sys.init (clock : ℚ) : Sys := ⟨clock, none, false, fun _ => .ready, []⟩

/-- Call `i` reads the file, then `time.time()` at `now`; it waits for the lock if it writes,
and is finished if not. -/
def Sys.read (σ : Sys) (i : Nat) (now : ℚ) : Sys :=
  { σ with
    clock := now
    phase := Function.update σ.phase i
      (if (calls i).writes cfg now σ.file then .waiting σ.file now else .done σ.file now)
    log := σ.log ++ [i] }

/-- One step of one call: its read, its lock and truncate, or its write and unlock. -/
inductive Step : Sys → Sys → Prop
  | read {σ : Sys} (i : Nat) (now : ℚ) : σ.phase i = .ready → σ.clock ≤ now → 0 < now →
      Step σ (σ.read cfg calls i now)
  | lock {σ : Sys} (i : Nat) {file : Option BreakerState} {now : ℚ} :
      σ.phase i = .waiting file now → σ.locked = false →
      Step σ { σ with
        file := none
        locked := true
        phase := Function.update σ.phase i (.writing file now) }
  | write {σ : Sys} (i : Nat) {file : Option BreakerState} {now : ℚ} :
      σ.phase i = .writing file now →
      Step σ { σ with
        file := (calls i).run cfg now file
        locked := false
        phase := Function.update σ.phase i (.done file now) }

/-- The states the calls `calls` reach from no file. -/
inductive Sys.Reachable : Sys → Prop
  | init (clock : ℚ) : Sys.Reachable (.init clock)
  | step {σ σ' : Sys} : Sys.Reachable σ → Step cfg calls σ σ' → Sys.Reachable σ'

/-- The number of `record_failure` calls that have read the file. -/
def Sys.failures (σ : Sys) : Nat := σ.log.countP fun i => (calls i).isRecordFailure

end Run

/-- Every call is a `record_failure`. -/
def allFailures : Nat → Call := fun _ => .recordFailure

/-- Calls 0 and 1 read the empty file at time 1, then each locks, truncates and writes in
turn. -/
def racingRun : Sys :=
  let σ2 := ((Sys.init 0).read {} allFailures 0 1).read {} allFailures 1 1
  let σ4 : Sys := { σ2 with
    file := (allFailures 0).run {} 1 none
    locked := false
    phase := Function.update (Function.update σ2.phase 0 (.writing none 1)) 0 (.done none 1) }
  { σ4 with
    file := (allFailures 1).run {} 1 none
    locked := false
    phase := Function.update (Function.update σ4.phase 1 (.writing none 1)) 1 (.done none 1) }

theorem racingRun_reachable : Sys.Reachable {} allFailures racingRun :=
  .step (.step (.step (.step (.step (.step (.init 0) (.read 0 1 rfl zero_le_one one_pos))
    (.read 1 1 rfl le_rfl one_pos)) (.lock 0 rfl rfl)) (.write 0 rfl)) (.lock 1 rfl rfl))
    (.write 1 rfl)

/-! ## 3. The breaker invariant -/

section Invariant

variable {cfg : Config} {calls : Nat → Call}

/-- `Inv` for the file and for what every call in flight will write. -/
structure ConcInv (cfg : Config) (calls : Nat → Call) (σ : Sys) : Prop where
  file : Inv cfg σ.clock (readState σ.file)
  pending : ∀ i f, (σ.phase i).pending cfg (calls i) = some f → Inv cfg σ.clock (readState f)

theorem ConcInv.init (hthr : 0 < cfg.failureThreshold) (clock : ℚ) :
    ConcInv cfg calls (.init clock) :=
  ⟨inv_default clock hthr, fun _ _ h => by cases h⟩

theorem ConcInv.step {σ σ' : Sys} (hthr : 0 < cfg.failureThreshold)
    (hi : ConcInv cfg calls σ) (h : Step cfg calls σ σ') : ConcInv cfg calls σ' := by
  cases h with
  | read i now _ hle hpos =>
    refine ⟨hi.file.mono hle, fun j f hj => ?_⟩
    by_cases hji : j = i
    · subst hji
      simp only [Sys.read, Function.update_same] at hj
      split_ifs at hj
      · cases hj
        exact hi.file.run (calls j) hle hpos hthr
      · cases hj
    · simp only [Sys.read, Function.update_noteq hji] at hj
      exact (hi.pending j f hj).mono hle
  | lock i hw _ =>
    refine ⟨inv_default σ.clock hthr, fun j f hj => ?_⟩
    by_cases hji : j = i
    · subst hji
      simp only [Function.update_same, Phase.pending] at hj
      exact hi.pending j f (by rw [hw]; exact hj)
    · exact hi.pending j f (by simpa [Function.update_noteq hji] using hj)
  | write i hw =>
    refine ⟨hi.pending i _ (by rw [hw]; rfl), fun j f hj => ?_⟩
    by_cases hji : j = i
    · subst hji
      simp [Phase.pending] at hj
    · exact hi.pending j f (by simpa [Function.update_noteq hji] using hj)

theorem Sys.Reachable.concInv {σ : Sys} (hthr : 0 < cfg.failureThreshold)
    (h : Sys.Reachable cfg calls σ) : ConcInv cfg calls σ := by
  induction h with
  | init clock => exact .init hthr clock
  | step _ hs ih => exact ih.step hthr hs

/-- **The breaker invariant holds across every interleaving.** From no file, with a positive
failure threshold, whatever the order in which concurrent calls read, lock and write, at
positive non-decreasing clock readings: the file, and every state a call in flight is about to
write, satisfy `Inv`. So an OPEN file's `check_state` half-opens it at every reading
`reset_timeout` after its `opened_at`, as in a sequential run. -/
theorem concurrent_runs_keep_breaker_invariant {σ : Sys} (hthr : 0 < cfg.failureThreshold)
    (h : Sys.Reachable cfg calls σ) :
    Inv cfg σ.clock (readState σ.file) ∧
      (∀ i f, (σ.phase i).pending cfg (calls i) = some f → Inv cfg σ.clock (readState f)) ∧
      ((readState σ.file).state = "OPEN" → ∃ t, (readState σ.file).openedAt = some t ∧
        ∀ now', t + cfg.resetTimeoutSeconds ≤ now' →
          checkState cfg now' σ.file = ("HALF_OPEN",
            some { readState σ.file with state := "HALF_OPEN", halfOpenProbes := 0 })) := by
  have hi := h.concInv hthr
  refine ⟨hi.file, hi.pending, fun hopen => ?_⟩
  obtain ⟨t, ht, hpos, -⟩ := hi.file.opened (.inl hopen)
  exact ⟨t, ht, fun now' hdue => checkState_of_open hopen ht hpos hdue⟩

/-- The racing run, at the default threshold of five. -/
theorem racing_run_keeps_invariant :
    (0 : ℚ) < ({} : Config).failureThreshold ∧
      (Inv {} racingRun.clock (readState racingRun.file) ∧
        (∀ i f, (racingRun.phase i).pending {} (allFailures i) = some f →
          Inv {} racingRun.clock (readState f)) ∧
        ((readState racingRun.file).state = "OPEN" → ∃ t,
          (readState racingRun.file).openedAt = some t ∧
          ∀ now', t + ({} : Config).resetTimeoutSeconds ≤ now' →
            checkState {} now' racingRun.file = ("HALF_OPEN",
              some { readState racingRun.file with state := "HALF_OPEN", halfOpenProbes := 0 }))) :=
  ⟨by norm_num, concurrent_runs_keep_breaker_invariant (by norm_num) racingRun_reachable⟩

end Invariant

/-! ## 4. The failure count -/

section Count

variable {cfg : Config} {calls : Nat → Call}

/-- The count never runs ahead of the failures read: for the file, for every state in flight,
and, with its own failure, for every file a `record_failure` read. -/
structure CountBound (cfg : Config) (calls : Nat → Call) (σ : Sys) : Prop where
  file : (readState σ.file).failureCount ≤ σ.failures calls
  pending : ∀ i f, (σ.phase i).pending cfg (calls i) = some f →
    (readState f).failureCount ≤ σ.failures calls
  read : ∀ i file now, (σ.phase i).read? = some (file, now) → calls i = .recordFailure →
    max ((readState file).failureCount + 1) 1 ≤ σ.failures calls

theorem Sys.failures_read (σ : Sys) (i : Nat) (now : ℚ) :
    (σ.read cfg calls i now).failures calls =
      σ.failures calls + if (calls i).isRecordFailure then 1 else 0 := by
  simp [Sys.failures, Sys.read, List.countP_append, List.countP_cons]

theorem CountBound.init (clock : ℚ) : CountBound cfg calls (.init clock) where
  file := by simp [Sys.init, readState, defaultState, Sys.failures]
  pending _ _ h := by cases h
  read _ _ _ h := by cases h

theorem CountBound.step {σ σ' : Sys} (hb : CountBound cfg calls σ)
    (h : Step cfg calls σ σ') : CountBound cfg calls σ' := by
  have h0 : (0 : Int) ≤ σ.failures calls := Int.ofNat_nonneg _
  cases h with
  | read i now _ _ _ =>
    have hn := @Sys.failures_read cfg calls σ i now
    have hmono : (σ.failures calls : Int) ≤ (σ.read cfg calls i now).failures calls := by
      rw [hn]; exact_mod_cast Nat.le_add_right _ _
    refine ⟨hb.file.trans hmono, fun j f hj => ?_, fun j file now' hj hc => ?_⟩
    · by_cases hji : j = i
      · subst hji
        simp only [Sys.read, Function.update_same] at hj
        split_ifs at hj
        · cases hj
          have := @failureCount_run_le_add cfg now σ.file _ h0 hb.file (calls j)
          rw [hn]
          split_ifs at this ⊢ <;> push_cast <;> omega
        · cases hj
      · simp only [Sys.read, Function.update_noteq hji] at hj
        exact (hb.pending j f hj).trans hmono
    · by_cases hji : j = i
      · subst hji
        have hread : (Phase.read? (if (calls j).writes cfg now σ.file then .waiting σ.file now
            else .done σ.file now)) = some (σ.file, now) := by
          split_ifs <;> rfl
        simp only [Sys.read, Function.update_same, hread, Option.some.injEq, Prod.mk.injEq] at hj
        rw [← hj.1, hn, hc]
        have := hb.file
        simp only [Call.isRecordFailure, if_true]
        push_cast
        omega
      · simp only [Sys.read, Function.update_noteq hji] at hj
        exact (hb.read j file now' hj hc).trans hmono
  | lock i hw _ =>
    refine ⟨by simp [readState, defaultState], fun j f hj => ?_, fun j file now hj hc => ?_⟩
    · by_cases hji : j = i
      · subst hji
        simp only [Function.update_same, Phase.pending] at hj
        exact hb.pending j f (by rw [hw]; exact hj)
      · exact hb.pending j f (by simpa [Function.update_noteq hji] using hj)
    · by_cases hji : j = i
      · subst hji
        simp only [Function.update_same, Phase.read?] at hj
        exact hb.read j file now (by rw [hw]; exact hj) hc
      · exact hb.read j file now (by simpa [Function.update_noteq hji] using hj) hc
  | write i hw =>
    refine ⟨hb.pending i _ (by rw [hw]; rfl), fun j f hj => ?_, fun j file now hj hc => ?_⟩
    · by_cases hji : j = i
      · subst hji
        simp [Phase.pending] at hj
      · exact hb.pending j f (by simpa [Function.update_noteq hji] using hj)
    · by_cases hji : j = i
      · subst hji
        simp only [Function.update_same, Phase.read?] at hj
        exact hb.read j file now (by rw [hw]; exact hj) hc
      · exact hb.read j file now (by simpa [Function.update_noteq hji] using hj) hc

theorem Sys.Reachable.countBound {σ : Sys} (h : Sys.Reachable cfg calls σ) :
    CountBound cfg calls σ := by
  induction h with
  | init clock => exact .init clock
  | step _ hs ih => exact ih.step hs

/-- **Concurrent failures are lost, never added.** In every interleaving of concurrent calls
from no file, the file's `failure_count` is at most the number of `record_failure` calls that
have read the file, and a `record_failure` that read a CLOSED file and returns OPEN does so
only once at least `failure_threshold` `record_failure` calls have read it. -/
theorem concurrent_failures_never_overcounted {σ : Sys} (h : Sys.Reachable cfg calls σ) :
    (readState σ.file).failureCount ≤ σ.failures calls ∧
      ∀ i file now, (σ.phase i).read? = some (file, now) → calls i = .recordFailure →
        (readState file).state = "CLOSED" → (recordFailure cfg now file).1 = "OPEN" →
        cfg.failureThreshold ≤ σ.failures calls := by
  have hb := h.countBound
  refine ⟨hb.file, fun i file now hr hc hcl ho => (threshold_le_of_trip hcl ho).trans ?_⟩
  exact_mod_cast hb.read i file now hr hc

/-- In the racing run both failures were read and the file counts one. -/
theorem racing_failures_lose_one :
    racingRun.failures allFailures = 2 ∧ (readState racingRun.file).failureCount = 1 ∧
      ((readState racingRun.file).failureCount ≤ racingRun.failures allFailures ∧
        ∀ i file now, (racingRun.phase i).read? = some (file, now) →
          allFailures i = .recordFailure → (readState file).state = "CLOSED" →
          (recordFailure {} now file).1 = "OPEN" →
          ({} : Config).failureThreshold ≤ racingRun.failures allFailures) :=
  ⟨rfl, by simp [racingRun, allFailures, Call.run, CircuitBreaker.recordFailure, readState,
    defaultState, truthy], concurrent_failures_never_overcounted racingRun_reachable⟩

end Count

end Concurrent
end CircuitBreaker
end Cheval
