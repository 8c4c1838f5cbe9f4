import Mathlib.Data.Rat.Floor
import Cheval.CircuitBreaker

/-!
# Runs of the breaker: when it trips, and how many probes it lets through

Two facts about whole runs of the four calls, each proved by an invariant over every prefix of
the run with one step lemma per call.

* **The trip rule** (`breaker_trip_rule`). `record_failure` in CLOSED resets the count when the
  previous failure is more than `count_window` seconds old, and adds one. So the count it
  compares with the threshold is the length of the current failure run: the longest run of
  latest failures since the last `record_success`, consecutive ones at most `count_window`
  apart (`failureRun`). The window bounds each gap, not the run's span. The breaker becomes
  CLOSED only on a `record_success` (`closed_only_by_success`), so "since the last success"
  is also "since it last became CLOSED".
* **Bounded probing** (`half_open_probes_bounded`). Under the probe protocol, where every
  `increment_probe` directly follows a `check_state` that returned HALF_OPEN, the probe count
  never exceeds `max(1, ⌈half_open_max_probes⌉)`. The check that moves OPEN to HALF_OPEN
  returns HALF_OPEN without comparing the count with the maximum, so one probe always gets
  through, also with a maximum of zero (`probe_past_zero_max`).

A run is a list of calls, each with its clock reading, folded from no file (`runCalls`).
-/

set_option autoImplicit false

namespace Cheval
namespace CircuitBreaker

/-! ## 1. Runs and failure runs -/

/-- The file after each call of `trace`, made at its clock reading, from `file`. -/
def runCalls (cfg : Config) (file : Option BreakerState) :
    List (Call × ℚ) → Option BreakerState
  | [] => file
  | (c, t) :: rest => runCalls cfg (c.run cfg t file) rest

/-- The clock readings of the failures recorded since the last `record_success`, or since the
start, newest first, after `acc`. -/
def failuresSince (acc : List ℚ) : List (Call × ℚ) → List ℚ
  | [] => acc
  | (.recordSuccess, _) :: rest => failuresSince [] rest
  | (.recordFailure, t) :: rest => failuresSince (t :: acc) rest
  | (_, _) :: rest => failuresSince acc rest

/-- The length of the current failure run of `failures` (newest first): the longest prefix in
which consecutive failures are at most `window` seconds apart. -/
def failureRun (window : ℚ) : List ℚ → Nat
  | [] => 0
  | [_] => 1
  | t :: t' :: rest => if t - t' ≤ window then failureRun window (t' :: rest) + 1 else 1

/-! ## 2. The trip rule -/

/-- What every file a run leaves says about the failures since the last success: in CLOSED,
its count is their failure run and its `last_failure_ts` the latest of them. -/
structure CountInv (cfg : Config) (file : Option BreakerState) (failures : List ℚ) : Prop where
  count : (readState file).state = "CLOSED" →
    (readState file).failureCount = failureRun cfg.countWindowSeconds failures
  last : (readState file).state = "CLOSED" → ∀ t, failures.head? = some t →
    (readState file).lastFailureTs = some t
  pos : ∀ t ∈ failures, 0 < t

variable {cfg : Config}

/-- The count `record_failure` computes in CLOSED is the failure run with the new failure. -/
theorem nextCount_eq {file : Option BreakerState} {failures : List ℚ} {now : ℚ}
    (hi : CountInv cfg file failures) (hclosed : (readState file).state = "CLOSED") :
    (if truthy (readState file).lastFailureTs ∧
        now - (readState file).lastFailureTs.getD 0 > cfg.countWindowSeconds then 0
      else (readState file).failureCount) + 1 =
      failureRun cfg.countWindowSeconds (now :: failures) := by
  rw [hi.count hclosed]
  cases failures with
  | nil => simp [failureRun]
  | cons t rest =>
    have ht := hi.last hclosed t rfl
    have htruthy : truthy (some t) = true := by simp [truthy, (hi.pos t (.head _)).ne']
    simp only [ht, htruthy, Option.getD_some, true_and, failureRun]
    split_ifs <;> first | rfl | (exfalso; linarith)

/-- `record_failure` on a CLOSED file: the count becomes the failure run with the new
failure, and the breaker opens exactly when that reaches the threshold. -/
theorem recordFailure_of_closed {file : Option BreakerState} {failures : List ℚ} {now : ℚ}
    (hi : CountInv cfg file failures) (hclosed : (readState file).state = "CLOSED") :
    CircuitBreaker.recordFailure cfg now file =
      if (failureRun cfg.countWindowSeconds (now :: failures) : ℚ) ≥ cfg.failureThreshold then
        ("OPEN", some { readState file with
          failureCount := failureRun cfg.countWindowSeconds (now :: failures),
          lastFailureTs := some now, state := "OPEN", openedAt := some now })
      else ("CLOSED", some { readState file with
          failureCount := failureRun cfg.countWindowSeconds (now :: failures),
          lastFailureTs := some now }) := by
  dsimp only [CircuitBreaker.recordFailure]
  rw [if_neg (by rw [hclosed]; decide), if_pos hclosed, nextCount_eq hi hclosed]
  push_cast
  rfl

/-- Only a CLOSED file is CLOSED after `record_failure`. -/
theorem closed_of_recordFailure {file : Option BreakerState} {now : ℚ}
    (h : (readState (CircuitBreaker.recordFailure cfg now file).2).state = "CLOSED") :
    (readState file).state = "CLOSED" := by
  by_contra hc
  dsimp only [CircuitBreaker.recordFailure] at h
  by_cases hh : (readState file).state = "HALF_OPEN"
  · rw [if_pos hh] at h
    simp at h
  · rw [if_neg hh, if_neg hc] at h
    exact hc h

theorem CountInv.recordFailure {file : Option BreakerState} {failures : List ℚ} {now : ℚ}
    (hi : CountInv cfg file failures) (hpos : 0 < now) :
    CountInv cfg (CircuitBreaker.recordFailure cfg now file).2 (now :: failures) := by
  refine ⟨fun h => ?_, fun h t ht => ?_, List.forall_mem_cons.2 ⟨hpos, hi.pos⟩⟩
  · have hc := closed_of_recordFailure h
    rw [recordFailure_of_closed hi hc] at h ⊢
    split_ifs at h ⊢
    · simp at h
    · rfl
  · have hc := closed_of_recordFailure h
    obtain rfl : now = t := Option.some.inj ht
    rw [recordFailure_of_closed hi hc] at h ⊢
    split_ifs at h ⊢
    · simp at h
    · rfl

theorem checkState_snd_of_closed {file : Option BreakerState} {now : ℚ}
    (h : (readState file).state = "CLOSED") :
    (CircuitBreaker.checkState cfg now file).2 = file := by
  simp [CircuitBreaker.checkState, h]

theorem closed_of_checkState {file : Option BreakerState} {now : ℚ}
    (h : (readState (CircuitBreaker.checkState cfg now file).2).state = "CLOSED") :
    (readState file).state = "CLOSED" := by
  dsimp only [CircuitBreaker.checkState] at h
  split_ifs at h <;> simp_all

theorem incrementProbe_of_closed {file : Option BreakerState}
    (h : (readState file).state = "CLOSED") : CircuitBreaker.incrementProbe file = file := by
  simp [CircuitBreaker.incrementProbe, h]

theorem closed_of_incrementProbe {file : Option BreakerState}
    (h : (readState (CircuitBreaker.incrementProbe file)).state = "CLOSED") :
    (readState file).state = "CLOSED" := by
  dsimp only [CircuitBreaker.incrementProbe] at h
  split_ifs at h <;> simp_all

theorem CountInv.recordSuccess {file : Option BreakerState} {failures : List ℚ}
    (hi : CountInv cfg file failures) :
    CountInv cfg (CircuitBreaker.recordSuccess file).2 [] := by
  refine ⟨fun h => ?_, fun _ t ht => by simp at ht, by simp⟩
  dsimp only [CircuitBreaker.recordSuccess] at h ⊢
  split_ifs at h ⊢ with hhalf hclosed hcount
  · rfl
  · rfl
  · have := hi.count hclosed
    simp only [failureRun]
    omega
  · exact absurd h hclosed

theorem CountInv.checkState {file : Option BreakerState} {failures : List ℚ} {now : ℚ}
    (hi : CountInv cfg file failures) :
    CountInv cfg (CircuitBreaker.checkState cfg now file).2 failures where
  count h := by
    rw [checkState_snd_of_closed (closed_of_checkState h)]; exact hi.count (closed_of_checkState h)
  last h := by
    rw [checkState_snd_of_closed (closed_of_checkState h)]; exact hi.last (closed_of_checkState h)
  pos := hi.pos

theorem CountInv.incrementProbe {file : Option BreakerState} {failures : List ℚ}
    (hi : CountInv cfg file failures) :
    CountInv cfg (CircuitBreaker.incrementProbe file) failures where
  count h := by
    rw [incrementProbe_of_closed (closed_of_incrementProbe h)]
    exact hi.count (closed_of_incrementProbe h)
  last h := by
    rw [incrementProbe_of_closed (closed_of_incrementProbe h)]
    exact hi.last (closed_of_incrementProbe h)
  pos := hi.pos

/-- **The run lemma**: from a file and failures that agree, every run at positive clock
readings keeps them agreeing. -/
theorem CountInv.runCalls {file : Option BreakerState} {acc : List ℚ}
    (hi : CountInv cfg file acc) :
    ∀ (trace : List (Call × ℚ)), (∀ x ∈ trace, 0 < x.2) →
      CountInv cfg (runCalls cfg file trace) (failuresSince acc trace)
  | [], _ => hi
  | (c, t) :: rest, hpos => by
    have ht : 0 < t := hpos (c, t) (.head _)
    have hrest : ∀ x ∈ rest, 0 < x.2 := fun x hx => hpos x (.tail _ hx)
    cases c with
    | checkState => exact hi.checkState.runCalls rest hrest
    | recordFailure => exact (hi.recordFailure ht).runCalls rest hrest
    | recordSuccess => exact hi.recordSuccess.runCalls rest hrest
    | incrementProbe => exact hi.incrementProbe.runCalls rest hrest

theorem countInv_none : CountInv cfg none [] :=
  ⟨fun _ => rfl, fun _ t ht => by simp at ht, by simp⟩

/-- A breaker becomes CLOSED only on a `record_success`. -/
theorem closed_only_by_success (c : Call) (now : ℚ) {file : Option BreakerState}
    (h : (readState file).state ≠ "CLOSED")
    (h' : (readState (c.run cfg now file)).state = "CLOSED") : c = .recordSuccess := by
  cases c with
  | checkState => exact absurd (closed_of_checkState h') h
  | recordFailure =>
    simp only [Call.run, CircuitBreaker.recordFailure] at h'
    split_ifs at h' <;> simp_all
  | recordSuccess => rfl
  | incrementProbe => exact absurd (closed_of_incrementProbe h') h

/-- **The trip rule.** After any run at positive clock readings that leaves the breaker CLOSED,
`record_failure` at `now` returns OPEN and sets `opened_at` to `now` exactly when the failure
run of the failures since the last `record_success`, this one included, reaches the threshold;
below it, the breaker stays CLOSED. The other three calls leave a CLOSED breaker CLOSED, and
only `record_success` makes a breaker CLOSED. -/
theorem breaker_trip_rule (cfg : Config) (trace : List (Call × ℚ)) (now : ℚ)
    (hpos : ∀ x ∈ trace, 0 < x.2)
    (hclosed : (readState (runCalls cfg none trace)).state = "CLOSED") :
    let file := runCalls cfg none trace
    let run := failureRun cfg.countWindowSeconds (now :: failuresSince [] trace)
    (((recordFailure cfg now file).1 = "OPEN" ∧
        (readState (recordFailure cfg now file).2).openedAt = some now) ↔
      cfg.failureThreshold ≤ run) ∧
    ((run : ℚ) < cfg.failureThreshold → (recordFailure cfg now file).1 = "CLOSED" ∧
      (readState (recordFailure cfg now file).2).state = "CLOSED") ∧
    (checkState cfg now file).1 = "CLOSED" ∧ (checkState cfg now file).2 = file ∧
    (recordSuccess file).1 = "CLOSED" ∧ (readState (recordSuccess file).2).state = "CLOSED" ∧
    incrementProbe file = file ∧
    ∀ (c : Call) (t : ℚ) (f : Option BreakerState), (readState f).state ≠ "CLOSED" →
      (readState (c.run cfg t f)).state = "CLOSED" → c = .recordSuccess := by
  intro file run
  have hi : CountInv cfg file (failuresSince [] trace) := countInv_none.runCalls trace hpos
  have hsuccess : (recordSuccess file).1 = "CLOSED" ∧
      (readState (recordSuccess file).2).state = "CLOSED" := by
    dsimp only [CircuitBreaker.recordSuccess]
    rw [if_neg (by rw [hclosed]; decide), if_pos hclosed]
    split_ifs <;> exact ⟨hclosed, hclosed⟩
  rw [recordFailure_of_closed hi hclosed]
  refine ⟨?_, fun hlt => ?_, by simp [CircuitBreaker.checkState, hclosed],
    checkState_snd_of_closed hclosed, hsuccess.1, hsuccess.2, incrementProbe_of_closed hclosed,
    closed_only_by_success⟩
  · split_ifs with h <;> simpa using h
  · rw [if_neg (not_le.2 hlt)]
    simpa using hclosed

/-- The defaults, but a threshold of two failures. -/
def twoFailures : Config := { failureThreshold := 2 }

/-- After one failure at time 1, a second failure a second later trips a threshold of two,
and one 399 seconds later, past the 300-second window, starts a new run and does not. -/
theorem second_failure_trips_within_window :
    (∀ x ∈ [(Call.recordFailure, (1 : ℚ))], 0 < x.2) ∧
      (readState (runCalls twoFailures none [(.recordFailure, 1)])).state = "CLOSED" ∧
      (recordFailure twoFailures 2 (runCalls twoFailures none [(.recordFailure, 1)])).1 = "OPEN" ∧
      (recordFailure twoFailures 400 (runCalls twoFailures none [(.recordFailure, 1)])).1 =
        "CLOSED" := by
  have hpos : ∀ x ∈ [(Call.recordFailure, (1 : ℚ))], 0 < x.2 := by simp
  have hclosed :
      (readState (runCalls twoFailures none [(.recordFailure, 1)])).state = "CLOSED" := by
    simp [runCalls, Call.run, CircuitBreaker.recordFailure, readState, defaultState, truthy,
      twoFailures]
  refine ⟨hpos, hclosed, ((breaker_trip_rule twoFailures _ 2 hpos hclosed).1.2 ?_).1,
    ((breaker_trip_rule twoFailures _ 400 hpos hclosed).2.1 ?_).1⟩ <;>
  norm_num [failureRun, failuresSince, twoFailures]

/-! ## 3. Bounded probing -/

/-- Runs under the probe protocol, from no file. `armed` says the last call was a
`check_state` that returned HALF_OPEN, which is what an `increment_probe` must follow; `n`
counts the probes started since the last `record_success` or `record_failure`. The clock
readings are arbitrary. -/
inductive ProbeRun (cfg : Config) : Option BreakerState → Bool → Nat → Prop
  | init : ProbeRun cfg none false 0
  | check {file : Option BreakerState} {armed : Bool} {n : Nat} (now : ℚ) :
      ProbeRun cfg file armed n →
      ProbeRun cfg (checkState cfg now file).2 ((checkState cfg now file).1 == "HALF_OPEN") n
  | failure {file : Option BreakerState} {armed : Bool} {n : Nat} (now : ℚ) :
      ProbeRun cfg file armed n → ProbeRun cfg (recordFailure cfg now file).2 false 0
  | success {file : Option BreakerState} {armed : Bool} {n : Nat} :
      ProbeRun cfg file armed n → ProbeRun cfg (recordSuccess file).2 false 0
  | probe {file : Option BreakerState} {n : Nat} :
      ProbeRun cfg file true n → ProbeRun cfg (incrementProbe file) false (n + 1)

/-- The most probes one HALF_OPEN period lets through. -/
def probeBound (cfg : Config) : Int := max 1 ⌈cfg.halfOpenMaxProbes⌉

/-- What every point of a probe-protocol run satisfies: the file's probe count is the number
of probes started since the period began, which is zero outside HALF_OPEN, and an armed run
is HALF_OPEN with room for one more probe. -/
structure ProbeInv (cfg : Config) (file : Option BreakerState) (armed : Bool) (n : Nat) :
    Prop where
  probes : (readState file).halfOpenProbes = n
  idle : (readState file).state ≠ "HALF_OPEN" → n = 0
  bound : (n : Int) ≤ probeBound cfg
  armed : armed = true → (readState file).state = "HALF_OPEN" ∧ (n : Int) < probeBound cfg

theorem one_le_probeBound : 1 ≤ probeBound cfg := le_max_left _ _

section Probes

variable {file : Option BreakerState} {armed : Bool} {n : Nat}

/-- A file with no probes starts a period afresh. -/
theorem probeInv_idle (hp : (readState file).halfOpenProbes = 0) : ProbeInv cfg file false 0 :=
  ⟨hp, fun _ => rfl, by have := @one_le_probeBound cfg; omega, by simp⟩

theorem ProbeInv.probes_of_idle (hi : ProbeInv cfg file armed n)
    (hs : (readState file).state ≠ "HALF_OPEN") : (readState file).halfOpenProbes = 0 := by
  rw [hi.probes, hi.idle hs, Nat.cast_zero]

/-- The OPEN to HALF_OPEN check arms the run with no probes yet; the HALF_OPEN check arms it
only below the maximum, hence below its ceiling. -/
theorem ProbeInv.check (hi : ProbeInv cfg file armed n) (now : ℚ) :
    ProbeInv cfg (checkState cfg now file).2 ((checkState cfg now file).1 == "HALF_OPEN") n := by
  dsimp only [CircuitBreaker.checkState]
  split_ifs with hopen hdue hhalf hmax
  · obtain rfl : n = 0 := hi.idle (by rw [hopen]; decide)
    have h1 := @one_le_probeBound cfg
    exact ⟨rfl, by simp, by omega, fun _ => ⟨rfl, by omega⟩⟩
  · exact { hi with armed := by simp }
  · exact { hi with armed := by simp }
  · refine { hi with armed := fun _ => ⟨hhalf, lt_of_lt_of_le ?_ (le_max_right _ _)⟩ }
    exact Int.lt_ceil.2 (by rw [← hi.probes]; simpa using hmax)
  · exact { hi with armed := by simp }

theorem ProbeInv.failure (hi : ProbeInv cfg file armed n) (now : ℚ) :
    ProbeInv cfg (recordFailure cfg now file).2 false 0 := by
  dsimp only [CircuitBreaker.recordFailure]
  split_ifs with hhalf
  · exact probeInv_idle rfl
  all_goals exact probeInv_idle (hi.probes_of_idle hhalf)

theorem ProbeInv.success (hi : ProbeInv cfg file armed n) :
    ProbeInv cfg (recordSuccess file).2 false 0 := by
  dsimp only [CircuitBreaker.recordSuccess]
  split_ifs with hhalf
  · exact probeInv_idle rfl
  all_goals exact probeInv_idle (hi.probes_of_idle hhalf)

/-- A probe in an armed run is made in HALF_OPEN with room for it. -/
theorem ProbeInv.probe (hi : ProbeInv cfg file true n) :
    ProbeInv cfg (incrementProbe file) false (n + 1) := by
  obtain ⟨hhalf, hlt⟩ := hi.armed rfl
  have hinc : incrementProbe file =
      some { readState file with halfOpenProbes := (readState file).halfOpenProbes + 1 } := by
    simp [CircuitBreaker.incrementProbe, hhalf]
  rw [hinc]
  exact ⟨by simp [hi.probes], by simp [hhalf], by omega, by simp⟩

/-- **The run lemma** for the probe protocol. -/
theorem ProbeRun.inv (h : ProbeRun cfg file armed n) : ProbeInv cfg file armed n := by
  induction h with
  | init => exact probeInv_idle rfl
  | check now _ ih => exact ih.check now
  | failure now _ ih => exact ih.failure now
  | success _ ih => exact ih.success
  | probe _ ih => exact ih.probe

end Probes

/-- **Bounded probing.** At every point of a probe-protocol run, the file's probe count is the
number of probes started since the last `record_success` or `record_failure`, none outside
HALF_OPEN, and at most `max(1, ⌈half_open_max_probes⌉)`: for a whole number `k ≥ 1` of
maximum probes, at most `k`. -/
theorem half_open_probes_bounded {file : Option BreakerState} {armed : Bool} {n : Nat}
    (h : ProbeRun cfg file armed n) :
    (readState file).halfOpenProbes = n ∧ ((readState file).state ≠ "HALF_OPEN" → n = 0) ∧
      (n : Int) ≤ max 1 ⌈cfg.halfOpenMaxProbes⌉ ∧
      ∀ k : Nat, 1 ≤ k → cfg.halfOpenMaxProbes = k → n ≤ k := by
  have hi := h.inv
  refine ⟨hi.probes, hi.idle, hi.bound, fun k hk hmax => ?_⟩
  have hb := hi.bound
  rw [probeBound, hmax, Int.ceil_natCast] at hb
  omega

/-- The defaults, but a threshold of one failure and no probes. -/
def zeroProbes : Config := { failureThreshold := 1, halfOpenMaxProbes := 0 }

/-- One failure at time 1, the check at 61 that half-opens the breaker, and one probe. -/
theorem probeRun_zeroProbes :
    ProbeRun zeroProbes (some ⟨"HALF_OPEN", 1, some 1, some 1, 1⟩) false 1 := by
  have hf :
      recordFailure zeroProbes 1 none = ("OPEN", some ⟨"OPEN", 1, some 1, some 1, 0⟩) := by
    simp [CircuitBreaker.recordFailure, readState, defaultState, truthy, zeroProbes]
  have hc : checkState zeroProbes 61 (some ⟨"OPEN", 1, some 1, some 1, 0⟩) =
      ("HALF_OPEN", some ⟨"HALF_OPEN", 1, some 1, some 1, 0⟩) := by
    simp [CircuitBreaker.checkState, truthy, zeroProbes]
    norm_num
  have hrun := ((ProbeRun.init : ProbeRun zeroProbes none false 0).failure 1).check 61
  rw [hf] at hrun
  simp only [hc] at hrun
  exact hrun.probe

/-- The run above stays within the corrected bound: its one probe is `max(1, ⌈0⌉)`. -/
theorem zero_max_lets_one_probe :
    ProbeRun zeroProbes (some ⟨"HALF_OPEN", 1, some 1, some 1, 1⟩) false 1 ∧
      ((1 : Nat) : Int) ≤ max 1 ⌈zeroProbes.halfOpenMaxProbes⌉ :=
  ⟨probeRun_zeroProbes, (half_open_probes_bounded probeRun_zeroProbes).2.2.1⟩

/-- With a maximum of zero probes, a run of the probe protocol starts one probe and leaves a
probe count above the maximum. -/
theorem probe_past_zero_max :
    ∃ file armed n, ProbeRun zeroProbes file armed n ∧ 0 ≤ zeroProbes.halfOpenMaxProbes ∧
      zeroProbes.halfOpenMaxProbes < n ∧
      zeroProbes.halfOpenMaxProbes < (readState file).halfOpenProbes :=
  ⟨_, _, _, probeRun_zeroProbes, by norm_num [zeroProbes], by norm_num [zeroProbes],
    by norm_num [zeroProbes]⟩

end CircuitBreaker
end Cheval
