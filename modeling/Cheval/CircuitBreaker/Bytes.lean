import Cheval.CircuitBreaker.File
import Cheval.CircuitBreaker.Runs

/-!
# Runs of the breaker on the bytes it writes

Each call of `circuit_breaker.py` reads the state file the previous call wrote: `_write_state`
writes `json.dumps(state, indent=2).encode("utf-8")`, and `_read_state` opens the file in text
mode, which decodes it as UTF-8, and parses the text with `json.load`. `runBytes` runs the four
calls this way on the file's bytes, from one call to the next, with `json.dumps` a parameter
(`dumps`) beside the `json.load` of `Lib`.

`typed_breaker_is_the_code_on_its_bytes` says that a run of the code is a run of the typed
model of `Cheval.CircuitBreaker`: at every call the code returns what the typed call returns,
and the file holds the bytes written for the typed file. It assumes one thing of the JSON
library, that `json.loads` reads back each record `json.dumps` wrote along the run. The UTF-8
layer is not assumed: the strict decoder reads back every encoding (`decodeStrict_utf8`). So
what is proved of the typed model over whole runs (the breaker invariant, the trip rule and the
probe bound) holds of the code's runs.

The proof is one lemma per layer: the bytes of a typed file read back as the dict `encode`
writes for it (`readState_fileBytes`), each call on that dict is the typed call
(`checkStateOn_encode` and its siblings), and what it writes is the typed file after it
(`afterWrite_fileBytes`).
-/

set_option autoImplicit false

namespace Cheval
namespace CircuitBreaker
namespace File

open Python Utf8

/-! ## 1. The calls on the file's bytes -/

/-- What `_write_state` leaves in the file for the dict `items`. -/
def writeBytes (dumps : PyVal → String) (items : List (String × PyVal)) : List UInt8 :=
  utf8 (dumps (.dict items))

/-- The file after a call: as it was when the call writes nothing. -/
def afterWrite (dumps : PyVal → String) (file : Option (Except PyErr (List UInt8))) :
    Option (List (String × PyVal)) → Option (Except PyErr (List UInt8))
  | none => file
  | some items => some (.ok (writeBytes dumps items))

section Bytes

variable (lib : Lib) (dumps : PyVal → String) (provider : String) (cfg : Config)

/-- One call made at `now` on the file's bytes: what it returns (`None` for
`increment_probe`), and the file after it. -/
def stepBytes (now : ℚ) : Call → Option (Except PyErr (List UInt8)) →
    Except PyErr (PyVal × Option (Except PyErr (List UInt8)))
  | .checkState, file => do
    let r ← checkState lib provider cfg now file
    pure (.str r.1, afterWrite dumps file r.2)
  | .recordFailure, file => do
    let r ← recordFailure lib provider cfg now file
    pure (.str r.1, afterWrite dumps file r.2)
  | .recordSuccess, file => do
    let r ← recordSuccess lib provider file
    pure (r.1, afterWrite dumps file r.2)
  | .incrementProbe, file => do
    let w ← incrementProbe lib provider file
    pure (.none, afterWrite dumps file w)

/-- A run of calls on the file's bytes, each at its clock reading: the answers, and the file
after the last call. -/
def runBytes : Option (Except PyErr (List UInt8)) → List (Call × ℚ) →
    Except PyErr (List PyVal × Option (Except PyErr (List UInt8)))
  | file, [] => .ok ([], file)
  | file, (c, t) :: rest => do
    let r ← stepBytes lib dumps provider cfg t c file
    let s ← runBytes r.2 rest
    pure (r.1 :: s.1, s.2)

end Bytes

/-! ## 2. The typed run, as the code writes it -/

/-- What a typed call returns, as the code returns it. -/
def typedAnswer (cfg : Config) (now : ℚ) : Call → Option BreakerState → PyVal
  | .checkState, file => .str (CircuitBreaker.checkState cfg now file).1
  | .recordFailure, file => .str (CircuitBreaker.recordFailure cfg now file).1
  | .recordSuccess, file => .str (CircuitBreaker.recordSuccess file).1
  | .incrementProbe, _ => .none

/-- The typed answers along a run. -/
def typedAnswers (cfg : Config) : Option BreakerState → List (Call × ℚ) → List PyVal
  | _, [] => []
  | file, (c, t) :: rest => typedAnswer cfg t c file :: typedAnswers cfg (c.run cfg t file) rest

/-- The files a typed run leaves, one after each call. -/
def filesAlong (cfg : Config) :
    Option BreakerState → List (Call × ℚ) → List (Option BreakerState)
  | _, [] => []
  | file, (c, t) :: rest => c.run cfg t file :: filesAlong cfg (c.run cfg t file) rest

/-- The bytes of a typed file, as `_write_state` wrote it; no file while there is none. -/
def fileBytes (dumps : PyVal → String) (provider : String) :
    Option BreakerState → Option (Except PyErr (List UInt8))
  | none => none
  | some st => some (.ok (writeBytes dumps (encode provider st)))

/-- `json.loads` reads back the record `json.dumps` wrote for `st`. -/
def ReadsBack (lib : Lib) (dumps : PyVal → String) (provider : String) (st : BreakerState) :
    Prop :=
  lib.jsonLoads (dumps (.dict (encode provider st))) = .ok (.dict (encode provider st))

/-! ## 3. One call -/

variable {lib : Lib} {dumps : PyVal → String} {provider : String} {cfg : Config}

theorem checkRecord_encode (st : BreakerState) :
    checkRecord provider (.dict (encode provider st)) = .ok (encode provider st) := by
  simp [checkRecord, getField, encode, PyVal.eqStr]

/-- The bytes of a typed file read back as the dict `encode` writes for its state. -/
theorem readState_fileBytes {file : Option BreakerState}
    (h : ∀ st, file = some st → ReadsBack lib dumps provider st) :
    readState lib provider (fileBytes dumps provider file) =
      .ok (encode provider (CircuitBreaker.readState file)) := by
  cases file with
  | none => rfl
  | some st =>
    have hl : lib.jsonLoads (dumps (.dict (encode provider st))) =
        .ok (.dict (encode provider st)) := h st rfl
    simp only [fileBytes, writeBytes, readState, loadRecord, decodeStrict_utf8, hl,
      checkRecord_encode, bind, Except.bind, pure, Except.pure]
    rfl

/-- What a call writes over the bytes of a typed file is the bytes of the typed file after
it. -/
theorem afterWrite_fileBytes {file file' : Option BreakerState}
    {w : Option (List (String × PyVal))} (hw : Written provider file file' w) :
    afterWrite dumps (fileBytes dumps provider file) w = fileBytes dumps provider file' := by
  cases w with
  | none => rw [show file' = file from hw]; rfl
  | some items =>
    obtain ⟨st', rfl, rfl⟩ := hw
    rfl

/-- **One call on the bytes is the typed call.** -/
theorem stepBytes_fileBytes {file : Option BreakerState}
    (h : ∀ st, file = some st → ReadsBack lib dumps provider st) (now : ℚ) (c : Call) :
    stepBytes lib dumps provider cfg now c (fileBytes dumps provider file) =
      .ok (typedAnswer cfg now c file, fileBytes dumps provider (c.run cfg now file)) := by
  have hr := readState_fileBytes h
  cases c with
  | checkState =>
    obtain ⟨w, hc, hw⟩ := @checkStateOn_encode provider cfg now file
    simp only [stepBytes, checkState, hr, hc, afterWrite_fileBytes hw, bind, Except.bind, pure,
      Except.pure]
    rfl
  | recordFailure =>
    obtain ⟨w, hc, hw⟩ := @recordFailureOn_encode provider cfg now file
    simp only [stepBytes, recordFailure, hr, hc, afterWrite_fileBytes hw, bind, Except.bind,
      pure, Except.pure]
    rfl
  | recordSuccess =>
    obtain ⟨w, hc, hw⟩ := @recordSuccessOn_encode provider file
    simp only [stepBytes, recordSuccess, hr, hc, afterWrite_fileBytes hw, bind, Except.bind,
      pure, Except.pure]
    rfl
  | incrementProbe =>
    obtain ⟨w, hc, hw⟩ := @incrementProbeOn_encode provider file
    simp only [stepBytes, incrementProbe, hr, hc, afterWrite_fileBytes hw, bind, Except.bind,
      pure, Except.pure]
    rfl

/-- A file a writer has truncated and not yet written is empty, and `json.load` rejects empty
text, so `_read_state` reads it as the default state, as with no file. This is how
`Cheval.CircuitBreaker.Concurrent` reads the file between a writer's truncate and its write. -/
theorem readState_empty (h : lib.jsonLoads "" = .error .jsonDecodeError) :
    readState lib provider (some (.ok [])) = readState lib provider none := by
  have hd : Utf8.decodeStrict [] = some "" := decodeStrict_utf8 ""
  simp only [readState, loadRecord, hd, h, bind, Except.bind]
  rfl

/-! ## 4. Runs -/

theorem runBytes_fileBytes (file : Option BreakerState) (trace : List (Call × ℚ))
    (h : ∀ st, some st ∈ file :: filesAlong cfg file trace →
      ReadsBack lib dumps provider st) :
    runBytes lib dumps provider cfg (fileBytes dumps provider file) trace =
      .ok (typedAnswers cfg file trace, fileBytes dumps provider (runCalls cfg file trace)) := by
  induction trace generalizing file with
  | nil => rfl
  | cons ct rest ih =>
    obtain ⟨c, t⟩ := ct
    have hnow : ∀ st, file = some st → ReadsBack lib dumps provider st :=
      fun st hst => h st (hst ▸ List.mem_cons_self _ _)
    have hnext : ∀ st, some st ∈ c.run cfg t file :: filesAlong cfg (c.run cfg t file) rest →
        ReadsBack lib dumps provider st :=
      fun st hst => h st (List.mem_cons_of_mem _ hst)
    simp only [runBytes, stepBytes_fileBytes hnow, ih _ hnext, bind, Except.bind, pure,
      Except.pure]
    rfl

/-- **The typed breaker is the code over whole runs.** For every `json.load` and `json.dumps`,
provider, config and run of the four calls from no state file, each at its clock reading:
when `json.loads` reads back each record `json.dumps` wrote along the run, the code, reading
each call's file from the bytes the previous call wrote (UTF-8 decoding, `json.load`, the
provider and state checks) and writing `json.dumps(state, indent=2).encode("utf-8")`, returns
at every call what the typed call returns, and leaves the bytes of the typed run's file. -/
theorem typed_breaker_is_the_code_on_its_bytes (lib : Lib) (dumps : PyVal → String)
    (provider : String) (cfg : Config) (trace : List (Call × ℚ))
    (h : ∀ st, some st ∈ filesAlong cfg none trace → ReadsBack lib dumps provider st) :
    runBytes lib dumps provider cfg none trace =
      .ok (typedAnswers cfg none trace, fileBytes dumps provider (runCalls cfg none trace)) :=
  runBytes_fileBytes none trace fun st hst =>
    h st ((List.mem_cons.1 hst).resolve_left (Option.some_ne_none st))

/-- The record one failure at time 1 writes from no file. -/
def oneFailureRecord : BreakerState := ⟨"CLOSED", 1, some 1, none, 0⟩

/-- A `json.load` that reads the text `r1` as that record. -/
def recordLib : Lib :=
  ⟨fun text => if text = "r1" then .ok (.dict (encode "openai" oneFailureRecord))
    else .error .jsonDecodeError⟩

/-- A failure at time 1, then a check at time 2, which reads what the failure wrote. -/
def failureThenCheck : List (Call × ℚ) := [(.recordFailure, 1), (.checkState, 2)]

/-- With `json.dumps` writing `r1`, the check reads the failure's record back. -/
theorem failure_then_check_on_bytes :
    (∀ st, some st ∈ filesAlong {} none failureThenCheck →
      ReadsBack recordLib (fun _ => "r1") "openai" st) ∧
    runBytes recordLib (fun _ => "r1") "openai" {} none failureThenCheck =
      .ok (typedAnswers {} none failureThenCheck,
        fileBytes (fun _ => "r1") "openai" (runCalls {} none failureThenCheck)) := by
  have h : ∀ st, some st ∈ filesAlong {} none failureThenCheck →
      ReadsBack recordLib (fun _ => "r1") "openai" st := by
    intro st hst
    norm_num [filesAlong, failureThenCheck, Call.run, CircuitBreaker.recordFailure,
      CircuitBreaker.checkState, CircuitBreaker.readState, CircuitBreaker.defaultState,
      truthy, show ("CLOSED" : String) ≠ "HALF_OPEN" by decide,
      show ("CLOSED" : String) ≠ "OPEN" by decide] at hst
    subst hst
    rfl
  exact ⟨h, typed_breaker_is_the_code_on_its_bytes _ _ _ _ _ h⟩

end File
end CircuitBreaker
end Cheval
