import Mathlib.Algebra.Order.Field.Rat
import Mathlib.Tactic.Linarith

/-!
# The file-based circuit breaker

`circuit_breaker.py` keeps one JSON file per provider and four calls that read it, change it
and write it back. Calls made one at a time see the file the previous call wrote, so the
breaker is a state machine over `Option BreakerState` (`none` while no call has written), with
one transition per call and a clock reading per call.

`Inv` is what every reachable file satisfies, and `reachable_inv` proves it for every run
whose clock is positive and non-decreasing. The state string is kept as the code writes it,
so that its three values are part of the invariant and not of the type. From the invariant,
`open_breaker_half_opens` says that the breaker never stays OPEN past its reset timeout.

The config is read through `config.get("routing", {}).get("circuit_breaker", {})` with a
default per key; `Config` holds the four numbers that lookup returns.

The calls compare differences of `time.time()` readings, which the code subtracts as floats.
Two positive doubles within a factor of two of each other subtract exactly (Sterbenz,
`Python.fsub_eq_sub`), and every two readings taken since 1998 are, so the model compares
exact differences.
-/

set_option autoImplicit false

namespace Cheval
namespace CircuitBreaker

/-! ## 1. The state file and the four calls -/

/-- `routing.circuit_breaker`, each key at its `DEFAULT_…` value when absent. -/
structure Config where
  failureThreshold : ℚ := 5
  resetTimeoutSeconds : ℚ := 60
  halfOpenMaxProbes : ℚ := 1
  countWindowSeconds : ℚ := 300

/-- The dict `_write_state` persists. -/
structure BreakerState where
  state : String
  failureCount : Int
  lastFailureTs : Option ℚ
  openedAt : Option ℚ
  halfOpenProbes : Int
  deriving DecidableEq, Repr

/-- `_default_state`. -/
def defaultState : BreakerState := ⟨"CLOSED", 0, none, none, 0⟩

/-- `_read_state`: the file's dict, or the default while there is no file. -/
def readState (file : Option BreakerState) : BreakerState := file.getD defaultState

/-- The truth value of a timestamp field: `None` and `0` are false. -/
def truthy : Option ℚ → Bool
  | some t => t != 0
  | none => false

/-- `check_state` with `time.time()` reading `now`: the state returned, and the file. -/
def checkState (cfg : Config) (now : ℚ) (file : Option BreakerState) :
    String × Option BreakerState :=
  let st := readState file
  if st.state = "OPEN" then
    if truthy st.openedAt ∧ now - st.openedAt.getD 0 ≥ cfg.resetTimeoutSeconds then
      ("HALF_OPEN", some { st with state := "HALF_OPEN", halfOpenProbes := 0 })
    else ("OPEN", file)
  else if st.state = "HALF_OPEN" then
    if (st.halfOpenProbes : ℚ) ≥ cfg.halfOpenMaxProbes then ("OPEN", file)
    else ("HALF_OPEN", file)
  else ("CLOSED", file)

/-- `record_failure` at `now`. -/
def recordFailure (cfg : Config) (now : ℚ) (file : Option BreakerState) :
    String × Option BreakerState :=
  let st := readState file
  if st.state = "HALF_OPEN" then
    ("OPEN", some { st with state := "OPEN", openedAt := some now, halfOpenProbes := 0 })
  else if st.state = "CLOSED" then
    let count := (if truthy st.lastFailureTs ∧
      now - st.lastFailureTs.getD 0 > cfg.countWindowSeconds then 0 else st.failureCount) + 1
    let st' := { st with failureCount := count, lastFailureTs := some now }
    if (count : ℚ) ≥ cfg.failureThreshold then
      ("OPEN", some { st' with state := "OPEN", openedAt := some now })
    else ("CLOSED", some st')
  else ("OPEN", some { st with lastFailureTs := some now })

/-- `record_success`. -/
def recordSuccess (file : Option BreakerState) : String × Option BreakerState :=
  let st := readState file
  if st.state = "HALF_OPEN" then ("CLOSED", some defaultState)
  else if st.state = "CLOSED" then
    if st.failureCount > 0 then (st.state, some { st with failureCount := 0 })
    else (st.state, file)
  else (st.state, file)

/-- `increment_probe`. -/
def incrementProbe (file : Option BreakerState) : Option BreakerState :=
  let st := readState file
  if st.state = "HALF_OPEN" then some { st with halfOpenProbes := st.halfOpenProbes + 1 }
  else file

/-- The four calls a client makes on one provider's breaker. -/
inductive Call where
  | checkState
  | recordFailure
  | recordSuccess
  | incrementProbe

/-- The file after one call made at `now`. -/
def Call.run (cfg : Config) (now : ℚ) : Call → Option BreakerState → Option BreakerState
  | .checkState, file => (CircuitBreaker.checkState cfg now file).2
  | .recordFailure, file => (CircuitBreaker.recordFailure cfg now file).2
  | .recordSuccess, file => (CircuitBreaker.recordSuccess file).2
  | .incrementProbe, file => CircuitBreaker.incrementProbe file

/-- The files a run of calls leaves, with the clock's last reading: from no file, each call
made at a positive reading no earlier than the one before. -/
inductive Reachable (cfg : Config) : ℚ → Option BreakerState → Prop
  | init : Reachable cfg 0 none
  | call {now : ℚ} {file : Option BreakerState} (c : Call) (now' : ℚ) :
      Reachable cfg now file → now ≤ now' → 0 < now' → Reachable cfg now' (c.run cfg now' file)

/-! ## 2. The invariant -/

/-- What every file a run leaves satisfies, at the clock's last reading `now`. -/
structure Inv (cfg : Config) (now : ℚ) (st : BreakerState) : Prop where
  state_mem : st.state = "CLOSED" ∨ st.state = "OPEN" ∨ st.state = "HALF_OPEN"
  closed : st.state = "CLOSED" →
    0 ≤ st.failureCount ∧ (st.failureCount : ℚ) < cfg.failureThreshold ∧ st.halfOpenProbes = 0
  open_probes : st.state = "OPEN" → st.halfOpenProbes = 0
  opened : st.state = "OPEN" ∨ st.state = "HALF_OPEN" →
    ∃ t, st.openedAt = some t ∧ 0 < t ∧ t ≤ now

variable {cfg : Config}

theorem inv_default (now : ℚ) (h : 0 < cfg.failureThreshold) : Inv cfg now defaultState where
  state_mem := .inl rfl
  closed _ := ⟨le_rfl, by simpa using h, rfl⟩
  open_probes h := by simp [defaultState] at h
  opened h := by simp [defaultState] at h

theorem Inv.mono {now now' : ℚ} {st : BreakerState} (hi : Inv cfg now st) (h : now ≤ now') :
    Inv cfg now' st :=
  { hi with
    opened := fun ho => let ⟨t, ht, hp, hle⟩ := hi.opened ho; ⟨t, ht, hp, hle.trans h⟩ }

@[simp] theorem readState_some (st : BreakerState) : readState (some st) = st := rfl

/-! ## 3. Each call keeps it -/

section Calls

variable {now now' : ℚ} {file : Option BreakerState}

theorem Inv.checkState (hi : Inv cfg now (readState file)) (hle : now ≤ now') :
    Inv cfg now' (readState (checkState cfg now' file).2) := by
  dsimp only [CircuitBreaker.checkState]
  split_ifs with hopen
  · obtain ⟨t, ht, hp, ht'⟩ := hi.opened (.inl hopen)
    exact { state_mem := .inr (.inr rfl)
            closed := fun h => by simp at h
            open_probes := fun h => by simp at h
            opened := fun _ => ⟨t, ht, hp, ht'.trans hle⟩ }
  all_goals exact hi.mono hle

/-- The invariant does not read `last_failure_ts`. -/
theorem Inv.withLastFailureTs {now : ℚ} {st : BreakerState} (hi : Inv cfg now st)
    (ts : Option ℚ) : Inv cfg now { st with lastFailureTs := ts } :=
  ⟨hi.1, hi.2, hi.3, hi.4⟩

theorem Inv.recordFailure (hi : Inv cfg now (readState file)) (hle : now ≤ now')
    (hpos : 0 < now') : Inv cfg now' (readState (recordFailure cfg now' file).2) := by
  dsimp only [CircuitBreaker.recordFailure]
  by_cases hhalf : (readState file).state = "HALF_OPEN"
  · rw [if_pos hhalf]
    exact { state_mem := .inr (.inl rfl)
            closed := fun h => by simp at h
            open_probes := fun _ => rfl
            opened := fun _ => ⟨now', rfl, hpos, le_rfl⟩ }
  rw [if_neg hhalf]
  by_cases hclosed : (readState file).state = "CLOSED"
  · obtain ⟨hfc, -, hprobes⟩ := hi.closed hclosed
    rw [if_pos hclosed]
    generalize hkept : (if truthy (readState file).lastFailureTs ∧
      now' - (readState file).lastFailureTs.getD 0 > cfg.countWindowSeconds then 0
      else (readState file).failureCount) = kept
    have hkept0 : 0 ≤ kept := by rw [← hkept]; split_ifs <;> omega
    split_ifs with hthr
    · exact { state_mem := .inr (.inl rfl)
              closed := fun h => by simp at h
              open_probes := fun _ => hprobes
              opened := fun _ => ⟨now', rfl, hpos, le_rfl⟩ }
    · exact { state_mem := .inl hclosed
              closed := fun _ => ⟨by simp only [readState_some]; omega, lt_of_not_le hthr, hprobes⟩
              open_probes := fun h => absurd (h.symm.trans hclosed) (by decide)
              opened := fun h => by rcases h with h | h <;> simp [hclosed] at h }
  · rw [if_neg hclosed]
    exact (hi.mono hle).withLastFailureTs _

theorem Inv.recordSuccess (hi : Inv cfg now (readState file))
    (hthr : 0 < cfg.failureThreshold) :
    Inv cfg now (readState (recordSuccess file).2) := by
  dsimp only [CircuitBreaker.recordSuccess]
  split_ifs with hhalf hclosed hfc
  · exact inv_default now hthr
  · obtain ⟨-, -, hprobes⟩ := hi.closed hclosed
    exact { hi with closed := fun _ => ⟨le_rfl, by simpa using hthr, hprobes⟩ }
  all_goals exact hi

theorem Inv.incrementProbe (hi : Inv cfg now (readState file)) :
    Inv cfg now (readState (incrementProbe file)) := by
  dsimp only [CircuitBreaker.incrementProbe]
  split_ifs with hhalf
  · exact { state_mem := .inr (.inr hhalf)
            closed := fun h => absurd (h.symm.trans hhalf) (by decide)
            open_probes := fun h => absurd (h.symm.trans hhalf) (by decide)
            opened := fun _ => hi.opened (.inr hhalf) }
  · exact hi

theorem Inv.run (hi : Inv cfg now (readState file)) (c : Call) (hle : now ≤ now')
    (hpos : 0 < now') (hthr : 0 < cfg.failureThreshold) :
    Inv cfg now' (readState (c.run cfg now' file)) := by
  cases c with
  | checkState => exact hi.checkState hle
  | recordFailure => exact hi.recordFailure hle hpos
  | recordSuccess => exact (hi.recordSuccess hthr).mono hle
  | incrementProbe => exact hi.incrementProbe.mono hle

end Calls

theorem Reachable.inv {now : ℚ} {file : Option BreakerState}
    (hthr : 0 < cfg.failureThreshold) (h : Reachable cfg now file) :
    Inv cfg now (readState file) := by
  induction h with
  | init => exact inv_default 0 hthr
  | call c now' _ hle hpos ih => exact ih.run c hle hpos hthr

/-! ## 4. The reset timeout -/

/-- An OPEN file whose `opened_at` is positive half-opens at every reading at least
`reset_timeout` after it. -/
theorem checkState_of_open {file : Option BreakerState} {t now : ℚ}
    (hopen : (readState file).state = "OPEN") (ht : (readState file).openedAt = some t)
    (hpos : 0 < t) (hdue : t + cfg.resetTimeoutSeconds ≤ now) :
    checkState cfg now file =
      ("HALF_OPEN", some { readState file with state := "HALF_OPEN", halfOpenProbes := 0 }) := by
  have hdue' : now - t ≥ cfg.resetTimeoutSeconds := by linarith
  simp [CircuitBreaker.checkState, hopen, ht, truthy, hpos.ne', hdue']

/-- **The breaker invariant.** From no file, with a failure threshold of at least one and any
run of the four calls at positive, non-decreasing clock readings, the file satisfies `Inv`:
its state is one of the three, CLOSED holds a count below the threshold and no probes, OPEN
no probes, and OPEN or HALF_OPEN a positive `opened_at` no later than the clock. So an OPEN
breaker half-opens, with its probes reset, at the first check `reset_timeout` after
`opened_at`. -/
theorem reachable_breaker_never_stays_open {now : ℚ} {file : Option BreakerState}
    (hthr : 1 ≤ cfg.failureThreshold) (h : Reachable cfg now file) :
    Inv cfg now (readState file) ∧
      ((readState file).state = "OPEN" → ∃ t, (readState file).openedAt = some t ∧
        ∀ now', t + cfg.resetTimeoutSeconds ≤ now' →
          checkState cfg now' file = ("HALF_OPEN",
            some { readState file with state := "HALF_OPEN", halfOpenProbes := 0 })) := by
  have hi := h.inv (by linarith)
  refine ⟨hi, fun hopen => ?_⟩
  obtain ⟨t, ht, hpos, -⟩ := hi.opened (.inl hopen)
  exact ⟨t, ht, fun now' hdue => checkState_of_open hopen ht hpos hdue⟩

/-- The defaults, but a threshold of one failure. -/
def oneFailure : Config := { failureThreshold := 1 }

/-- One failure at time 1 opens the breaker, and the check at 61 half-opens it. -/
theorem breaker_half_opens_after_one_failure :
    (1 : ℚ) ≤ oneFailure.failureThreshold ∧
      Reachable oneFailure 1 (Call.recordFailure.run oneFailure 1 none) ∧
      (readState (Call.recordFailure.run oneFailure 1 none)).state = "OPEN" ∧
      (checkState oneFailure 61 (Call.recordFailure.run oneFailure 1 none)).1 = "HALF_OPEN" := by
  have hr : Reachable oneFailure 1 (Call.recordFailure.run oneFailure 1 none) :=
    .call .recordFailure 1 .init zero_le_one one_pos
  have hopen : (readState (Call.recordFailure.run oneFailure 1 none)).state = "OPEN" := by
    simp [Call.run, CircuitBreaker.recordFailure, readState, defaultState, oneFailure]
  obtain ⟨t, ht, hdue⟩ := (reachable_breaker_never_stays_open le_rfl hr).2 hopen
  have ht1 : t = 1 := by
    simp [Call.run, CircuitBreaker.recordFailure, readState, defaultState, oneFailure] at ht
    exact ht.symm
  refine ⟨le_rfl, hr, hopen, ?_⟩
  rw [hdue 61 (by rw [ht1]; norm_num [oneFailure])]

end CircuitBreaker
end Cheval
