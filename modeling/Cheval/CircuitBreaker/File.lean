import Cheval.CircuitBreaker
import Cheval.Python.Utf8
import Cheval.Python.Value

/-!
# The breaker on whatever the state file holds

`Cheval.CircuitBreaker` models the four calls on the records they write themselves. Here they
are modelled as the code runs them on any file. `_read_state` opens the file in text mode,
which decodes it as UTF-8, parses it with `json.load`, and checks the result with
`data.get("provider")`; it catches `json.JSONDecodeError` and `OSError` only. The state it
returns is a dict of JSON values, and the calls read its fields with `get`, subtract them from
the clock, compare them with numbers and add one to them, each of which raises on a value of
the wrong type.

`breaker_state_file_outcomes` sorts the contents a file can have. Text that does not parse,
an unreadable file, and a dict for another provider or without a state are read as the default
state. Bytes that are not UTF-8 raise `UnicodeDecodeError` from every call, and JSON that is
not an object raises `AttributeError` from every call, since neither exception is caught. A
record whose counter is not a number makes `record_success` raise `TypeError`, and a record
whose state is none of the three makes `record_success` return that state.

`calls_on_written_record_match_typed` connects this level with `Cheval.CircuitBreaker`: on the
dict `encode` writes for a typed state, each call returns what the typed call returns and
writes the encoding of the typed state after it, one lemma per call (`checkStateOn_encode` and
its siblings).
-/

set_option autoImplicit false

namespace Cheval
namespace CircuitBreaker
namespace File

open Python

/-! ## 1. Reading the file -/

/-- `json.load` on the text of the file, the one library function reading it needs. -/
structure Lib where
  jsonLoads : String → Except PyErr PyVal

/-- The exceptions `_read_state` catches: `json.JSONDecodeError`, and `OSError` with its
subclass `FileNotFoundError`. -/
def caught : PyErr → Bool
  | .jsonDecodeError | .osError | .fileNotFoundError => true
  | _ => false

/-- `_default_state(provider)`. -/
def defaultState (provider : String) : List (String × PyVal) :=
  [("provider", .str provider), ("state", .str "CLOSED"), ("failure_count", .int 0),
    ("last_failure_ts", .none), ("opened_at", .none), ("half_open_probes", .int 0)]

/-- `state.get(key, default)` on a state dict. -/
def getField (state : List (String × PyVal)) (key : String) (default : PyVal) : PyVal :=
  (state.lookup key).getD default

/-- The check after `json.load`: `data.get` raises `AttributeError` on anything but a dict, and
a dict for another provider, or with no `state` key, gives the default. -/
def checkRecord (provider : String) : PyVal → Except PyErr (List (String × PyVal))
  | .dict items =>
    if (getField items "provider" .none).eqStr provider && (items.lookup "state").isSome then
      .ok items
    else .ok (defaultState provider)
  | _ => .error .attributeError

/-- The `try` body of `_read_state`, on what `open` and `read` gave: the bytes, or the
`OSError` they raised. -/
def loadRecord (lib : Lib) (provider : String) (contents : Except PyErr (List UInt8)) :
    Except PyErr (List (String × PyVal)) := do
  let bs ← contents
  let text ← match Utf8.decodeStrict bs with
    | some text => .ok text
    | none => .error .unicodeDecodeError
  let data ← lib.jsonLoads text
  checkRecord provider data

/-- `_read_state`; the file is `none` while `os.path.exists` is false. -/
def readState (lib : Lib) (provider : String) :
    Option (Except PyErr (List UInt8)) → Except PyErr (List (String × PyVal))
  | none => .ok (defaultState provider)
  | some contents =>
    match loadRecord lib provider contents with
    | .error e => if caught e then .ok (defaultState provider) else .error e
    | .ok state => .ok state

/-! ## 2. The four calls -/

/-- `check_state` after `_read_state`: the state returned, and the dict written, if any. -/
def checkStateOn (cfg : Config) (now : ℚ) (state : List (String × PyVal)) :
    Except PyErr (String × Option (List (String × PyVal))) := do
  let current := getField state "state" (.str "CLOSED")
  if current.eqStr "OPEN" then
    let openedAt := getField state "opened_at" .none
    if openedAt.truthy then
      let t ← openedAt.toFloat
      if now - t ≥ cfg.resetTimeoutSeconds then
        return ("HALF_OPEN",
          some (setItem (setItem state "state" (.str "HALF_OPEN")) "half_open_probes" (.int 0)))
    return ("OPEN", none)
  if current.eqStr "HALF_OPEN" then
    let probes ← (getField state "half_open_probes" (.int 0)).toNumber
    if probes ≥ cfg.halfOpenMaxProbes then return ("OPEN", none)
    return ("HALF_OPEN", none)
  return ("CLOSED", none)

/-- `record_failure` after `_read_state`, with `time.time()` reading `now`. -/
def recordFailureOn (cfg : Config) (now : ℚ) (state : List (String × PyVal)) :
    Except PyErr (String × Option (List (String × PyVal))) := do
  let current := getField state "state" (.str "CLOSED")
  if current.eqStr "HALF_OPEN" then
    return ("OPEN", some (setItem (setItem (setItem state "state" (.str "OPEN"))
      "opened_at" (.float now)) "half_open_probes" (.int 0)))
  if current.eqStr "CLOSED" then
    let lastTs := getField state "last_failure_ts" .none
    let expired ← if lastTs.truthy then do
        let t ← lastTs.toFloat
        pure (decide (now - t > cfg.countWindowSeconds))
      else pure false
    let state := if expired then setItem state "failure_count" (.int 0) else state
    let count ← (getField state "failure_count" (.int 0)).addOne
    let state := setItem (setItem state "failure_count" count) "last_failure_ts" (.float now)
    let c ← count.toNumber
    if c ≥ cfg.failureThreshold then
      return ("OPEN", some (setItem (setItem state "state" (.str "OPEN")) "opened_at" (.float now)))
    return ("CLOSED", some state)
  return ("OPEN", some (setItem state "last_failure_ts" (.float now)))

/-- `record_success` after `_read_state`. -/
def recordSuccessOn (provider : String) (state : List (String × PyVal)) :
    Except PyErr (PyVal × Option (List (String × PyVal))) := do
  let current := getField state "state" (.str "CLOSED")
  if current.eqStr "HALF_OPEN" then return (.str "CLOSED", some (defaultState provider))
  if current.eqStr "CLOSED" then
    let count ← (getField state "failure_count" (.int 0)).toNumber
    if count > 0 then
      let state := setItem state "failure_count" (.int 0)
      return (getField state "state" (.str "CLOSED"), some state)
  return (getField state "state" (.str "CLOSED"), none)

/-- `increment_probe` after `_read_state`: the dict written, if any. -/
def incrementProbeOn (state : List (String × PyVal)) :
    Except PyErr (Option (List (String × PyVal))) := do
  if (getField state "state" .none).eqStr "HALF_OPEN" then
    let probes ← (getField state "half_open_probes" (.int 0)).addOne
    return some (setItem state "half_open_probes" probes)
  return none

variable (lib : Lib) (provider : String) (cfg : Config) (now : ℚ)

/-- `check_state(provider, config)`. -/
def checkState (file : Option (Except PyErr (List UInt8))) :
    Except PyErr (String × Option (List (String × PyVal))) := do
  let state ← readState lib provider file
  checkStateOn cfg now state

/-- `record_failure(provider, config)`. -/
def recordFailure (file : Option (Except PyErr (List UInt8))) :
    Except PyErr (String × Option (List (String × PyVal))) := do
  let state ← readState lib provider file
  recordFailureOn cfg now state

/-- `record_success(provider, config)`. -/
def recordSuccess (file : Option (Except PyErr (List UInt8))) :
    Except PyErr (PyVal × Option (List (String × PyVal))) := do
  let state ← readState lib provider file
  recordSuccessOn provider state

/-- `increment_probe(provider)`. -/
def incrementProbe (file : Option (Except PyErr (List UInt8))) :
    Except PyErr (Option (List (String × PyVal))) := do
  let state ← readState lib provider file
  incrementProbeOn state

/-! ## 3. What each kind of content does -/

/-- Every call raises `e` on the file. -/
def AllRaise (file : Option (Except PyErr (List UInt8))) (e : PyErr) : Prop :=
  checkState lib provider cfg now file = .error e ∧
    recordFailure lib provider cfg now file = .error e ∧
    recordSuccess lib provider file = .error e ∧ incrementProbe lib provider file = .error e

/-- Every call does on the file what it does while there is none. -/
def AsNoFile (file : Option (Except PyErr (List UInt8))) : Prop :=
  checkState lib provider cfg now file = checkState lib provider cfg now none ∧
    recordFailure lib provider cfg now file = recordFailure lib provider cfg now none ∧
    recordSuccess lib provider file = recordSuccess lib provider none ∧
    incrementProbe lib provider file = incrementProbe lib provider none

variable {lib provider cfg now}

theorem allRaise_of_readState {file : Option (Except PyErr (List UInt8))} {e : PyErr}
    (h : readState lib provider file = .error e) : AllRaise lib provider cfg now file e := by
  simp only [AllRaise, checkState, recordFailure, recordSuccess, incrementProbe, h]
  exact ⟨rfl, rfl, rfl, rfl⟩

theorem asNoFile_of_readState {file : Option (Except PyErr (List UInt8))}
    (h : readState lib provider file = readState lib provider none) :
    AsNoFile lib provider cfg now file := by
  simp only [AsNoFile, checkState, recordFailure, recordSuccess, incrementProbe, h, and_self]

theorem loadRecord_of_decode {bs : List UInt8} {text : String}
    (h : Utf8.decodeStrict bs = some text) :
    loadRecord lib provider (.ok bs) = lib.jsonLoads text >>= checkRecord provider := by
  simp only [loadRecord, bind, Except.bind, h]

theorem readState_of_not_utf8 {bs : List UInt8} (h : Utf8.decodeStrict bs = none) :
    readState lib provider (some (.ok bs)) = .error .unicodeDecodeError := by
  simp only [readState, loadRecord, bind, Except.bind, h]
  rfl

/-- Text that parses to a value: what `checkRecord` makes of it, its `AttributeError` uncaught. -/
theorem readState_of_parse {bs : List UInt8} {text : String} {v : PyVal}
    (h : Utf8.decodeStrict bs = some text) (hv : lib.jsonLoads text = .ok v) :
    readState lib provider (some (.ok bs)) = checkRecord provider v := by
  simp only [readState, loadRecord_of_decode h, hv, bind, Except.bind]
  cases v with
  | dict items => dsimp only [checkRecord]; split_ifs <;> rfl
  | _ => rfl

/-- Text that does not parse: the default state when the error is caught. -/
theorem readState_of_parse_error {bs : List UInt8} {text : String} {e : PyErr}
    (h : Utf8.decodeStrict bs = some text) (he : lib.jsonLoads text = .error e) :
    readState lib provider (some (.ok bs)) =
      if caught e then .ok (defaultState provider) else .error e := by
  simp only [readState, loadRecord_of_decode h, he, bind, Except.bind]

theorem readState_of_unreadable {e : PyErr} :
    readState lib provider (some (.error e)) =
      if caught e then .ok (defaultState provider) else .error e := rfl

/-- A dict for this provider with a state is the state read. -/
theorem readState_of_record {bs : List UInt8} {text : String} {items : List (String × PyVal)}
    (h : Utf8.decodeStrict bs = some text) (hv : lib.jsonLoads text = .ok (.dict items))
    (hp : (getField items "provider" .none).eqStr provider = true)
    (hs : (items.lookup "state").isSome = true) :
    readState lib provider (some (.ok bs)) = .ok items := by
  rw [readState_of_parse h hv, checkRecord, hp, hs, Bool.and_self, if_pos rfl]

/-- Any other dict is read as the default state. -/
theorem readState_of_foreign {bs : List UInt8} {text : String} {items : List (String × PyVal)}
    (h : Utf8.decodeStrict bs = some text) (hv : lib.jsonLoads text = .ok (.dict items))
    (hn : ¬ ((getField items "provider" .none).eqStr provider = true ∧
      (items.lookup "state").isSome = true)) :
    readState lib provider (some (.ok bs)) = .ok (defaultState provider) := by
  rw [readState_of_parse h hv, checkRecord, if_neg (by simpa using hn)]

/-! ## 4. What the calls return -/

theorem checkStateOn_result {state : List (String × PyVal)} {r : String}
    {w : Option (List (String × PyVal))} (h : checkStateOn cfg now state = .ok (r, w)) :
    r = "CLOSED" ∨ r = "OPEN" ∨ r = "HALF_OPEN" := by
  simp only [checkStateOn, pure_bind] at h
  split_ifs at h
  · obtain ⟨_, -, h⟩ := bind_eq_ok.1 h
    split_ifs at h <;> cases h <;> simp
  · cases h; simp
  · obtain ⟨_, -, h⟩ := bind_eq_ok.1 h
    split_ifs at h <;> cases h <;> simp
  · cases h; simp

theorem recordFailureOn_result {state : List (String × PyVal)} {r : String}
    {w : Option (List (String × PyVal))} (h : recordFailureOn cfg now state = .ok (r, w)) :
    r = "OPEN" ∨ r = "CLOSED" := by
  simp only [recordFailureOn, pure_bind] at h
  by_cases hh : (getField state "state" (.str "CLOSED")).eqStr "HALF_OPEN"
  · rw [if_pos hh] at h
    cases h
    exact .inl rfl
  rw [if_neg hh] at h
  by_cases hc : (getField state "state" (.str "CLOSED")).eqStr "CLOSED"
  · rw [if_pos hc] at h
    split at h
    all_goals
      repeat obtain ⟨_, -, h⟩ := bind_eq_ok.1 h
      split at h <;> cases h <;> simp
  · rw [if_neg hc] at h
    cases h
    exact .inl rfl

theorem toNumber_of_numeric_none {v : PyVal} (h : v.numeric = none) :
    v.toNumber = .error .typeError := by
  simp [PyVal.toNumber, h]

theorem toFloat_of_numeric_none {v : PyVal} (h : v.numeric = none) :
    v.toFloat = .error .typeError := by
  cases v <;> simp_all [PyVal.numeric, PyVal.toFloat]

theorem getField_of_lookup {state : List (String × PyVal)} {key : String} {v : PyVal}
    (h : state.lookup key = some v) (d : PyVal) : getField state key d = v := by
  rw [getField, h, Option.getD_some]

/-- In CLOSED, a counter that is not a number makes `record_success` raise. -/
theorem recordSuccessOn_of_bad_count {state : List (String × PyVal)}
    (hs : state.lookup "state" = some (.str "CLOSED"))
    (hc : (getField state "failure_count" (.int 0)).numeric = none) :
    recordSuccessOn provider state = .error .typeError := by
  simp only [recordSuccessOn, pure_bind, getField_of_lookup hs, toNumber_of_numeric_none hc]
  rfl

/-- A state that is none of HALF_OPEN and CLOSED is returned as it is, and nothing written. -/
theorem recordSuccessOn_of_other {state : List (String × PyVal)} {v : PyVal}
    (hs : state.lookup "state" = some v) (hh : v.eqStr "HALF_OPEN" = false)
    (hc : v.eqStr "CLOSED" = false) : recordSuccessOn provider state = .ok (v, none) := by
  simp only [recordSuccessOn, pure_bind, getField_of_lookup hs, hh, hc]
  rfl

/-- In OPEN, an `opened_at` that is true but not a number makes `check_state` raise. -/
theorem checkStateOn_of_bad_opened {state : List (String × PyVal)}
    (hs : state.lookup "state" = some (.str "OPEN"))
    (ht : (getField state "opened_at" .none).truthy = true)
    (hn : (getField state "opened_at" .none).numeric = none) :
    checkStateOn cfg now state = .error .typeError := by
  simp only [checkStateOn, pure_bind, getField_of_lookup hs, ht, toFloat_of_numeric_none hn]
  rfl

/-- **What each kind of content does.** Bytes that are not UTF-8, and JSON that is not an
object, make every call raise, since `_read_state` catches neither `UnicodeDecodeError` nor
`AttributeError`. Text that does not parse, an unreadable file, and a dict for another provider
or without a state are read as no file is. A CLOSED record whose counter is not a number makes
`record_success` raise `TypeError`, as does an OPEN record with a true `opened_at` that is not a
number for `check_state`; a record whose state is neither HALF_OPEN nor CLOSED makes
`record_success` return that state. `check_state` and `record_failure` return one of the
three states whenever they return. -/
theorem breaker_state_file_outcomes (lib : Lib) (provider : String) (cfg : Config) (now : ℚ) :
    (∀ bs, Utf8.decodeStrict bs = none →
      AllRaise lib provider cfg now (some (.ok bs)) .unicodeDecodeError) ∧
    (∀ bs text v, Utf8.decodeStrict bs = some text → lib.jsonLoads text = .ok v →
      v.isDict = false → AllRaise lib provider cfg now (some (.ok bs)) .attributeError) ∧
    (∀ bs text e, Utf8.decodeStrict bs = some text → lib.jsonLoads text = .error e →
      caught e = true → AsNoFile lib provider cfg now (some (.ok bs))) ∧
    (∀ e, caught e = true → AsNoFile lib provider cfg now (some (.error e))) ∧
    (∀ bs text items, Utf8.decodeStrict bs = some text →
      lib.jsonLoads text = .ok (.dict items) →
      ¬ ((getField items "provider" .none).eqStr provider = true ∧
        (items.lookup "state").isSome = true) →
      AsNoFile lib provider cfg now (some (.ok bs))) ∧
    (∀ bs text items, Utf8.decodeStrict bs = some text →
      lib.jsonLoads text = .ok (.dict items) →
      (getField items "provider" .none).eqStr provider = true →
      items.lookup "state" = some (.str "CLOSED") →
      (getField items "failure_count" (.int 0)).numeric = none →
      recordSuccess lib provider (some (.ok bs)) = .error .typeError) ∧
    (∀ bs text items, Utf8.decodeStrict bs = some text →
      lib.jsonLoads text = .ok (.dict items) →
      (getField items "provider" .none).eqStr provider = true →
      items.lookup "state" = some (.str "OPEN") →
      (getField items "opened_at" .none).truthy = true →
      (getField items "opened_at" .none).numeric = none →
      checkState lib provider cfg now (some (.ok bs)) = .error .typeError) ∧
    (∀ bs text items v, Utf8.decodeStrict bs = some text →
      lib.jsonLoads text = .ok (.dict items) →
      (getField items "provider" .none).eqStr provider = true → items.lookup "state" = some v →
      v.eqStr "HALF_OPEN" = false → v.eqStr "CLOSED" = false →
      recordSuccess lib provider (some (.ok bs)) = .ok (v, none)) ∧
    (∀ file r w, checkState lib provider cfg now file = .ok (r, w) →
      r = "CLOSED" ∨ r = "OPEN" ∨ r = "HALF_OPEN") ∧
    (∀ file r w, recordFailure lib provider cfg now file = .ok (r, w) →
      r = "OPEN" ∨ r = "CLOSED") := by
  refine ⟨fun bs h => allRaise_of_readState (readState_of_not_utf8 h),
    fun bs text v h hv hd => allRaise_of_readState ?_,
    fun bs text e h he hc => asNoFile_of_readState ?_,
    fun e hc => asNoFile_of_readState (by rw [readState_of_unreadable, if_pos hc]; rfl),
    fun bs text items h hv hn => asNoFile_of_readState (readState_of_foreign h hv hn),
    fun bs text items h hv hp hs hc => ?_, fun bs text items h hv hp hs ht hn => ?_,
    fun bs text items v h hv hp hs hh hc => ?_, fun file r w hr => ?_, fun file r w hr => ?_⟩
  · rw [readState_of_parse h hv]
    cases v <;> first | rfl | simp [PyVal.isDict] at hd
  · rw [readState_of_parse_error h he, if_pos hc]; rfl
  · rw [recordSuccess, readState_of_record h hv hp (by simp [hs])]
    exact recordSuccessOn_of_bad_count hs hc
  · rw [checkState, readState_of_record h hv hp (by simp [hs])]
    exact checkStateOn_of_bad_opened hs ht hn
  · rw [recordSuccess, readState_of_record h hv hp (by simp [hs])]
    exact recordSuccessOn_of_other hs hh hc
  · obtain ⟨_, -, hr⟩ := bind_eq_ok.1 hr
    exact checkStateOn_result hr
  · obtain ⟨_, -, hr⟩ := bind_eq_ok.1 hr
    exact recordFailureOn_result hr

/-- `json.loads` that reads `null` as `None` and fails on everything else. -/
def nullOnly : Lib := ⟨fun text => if text = "null" then .ok .none else .error .jsonDecodeError⟩

/-- A file holding `null`, and one holding the byte `0xFF`, make every call raise. -/
theorem null_and_non_utf8_files_raise :
    AllRaise nullOnly "openai" {} 0 (some (.ok (utf8 "null"))) .attributeError ∧
      AllRaise nullOnly "openai" {} 0 (some (.ok [0xFF])) .unicodeDecodeError :=
  ⟨(breaker_state_file_outcomes nullOnly "openai" {} 0).2.1 _ "null" .none (by decide) rfl rfl,
    (breaker_state_file_outcomes nullOnly "openai" {} 0).1 _ (by decide)⟩

/-! ## 5. The typed model is what the code does on the records it writes -/

/-- A timestamp field as `_write_state` writes it. -/
def optFloat : Option ℚ → PyVal
  | none => .none
  | some t => .float t

/-- The dict `_write_state` writes for a typed state. -/
def encode (provider : String) (st : BreakerState) : List (String × PyVal) :=
  [("provider", .str provider), ("state", .str st.state), ("failure_count", .int st.failureCount),
    ("last_failure_ts", optFloat st.lastFailureTs), ("opened_at", optFloat st.openedAt),
    ("half_open_probes", .int st.halfOpenProbes)]

/-- What a call wrote, against the typed file after it: nothing while the typed call left the
file as it was, and otherwise the encoding of the typed state it wrote. -/
def Written (provider : String) (file : Option BreakerState) :
    Option BreakerState → Option (List (String × PyVal)) → Prop
  | file', none => file' = file
  | file', some items => ∃ st', file' = some st' ∧ items = encode provider st'

theorem encode_defaultState (provider : String) :
    encode provider CircuitBreaker.defaultState = defaultState provider := rfl

@[simp] theorem truthy_optFloat (o : Option ℚ) : (optFloat o).truthy = truthy o := by
  cases o <;> rfl

section Encode

variable (provider : String) (st : BreakerState) (d : PyVal)

@[simp] theorem getField_encode_state : getField (encode provider st) "state" d = .str st.state :=
  rfl

@[simp] theorem getField_encode_failureCount :
    getField (encode provider st) "failure_count" d = .int st.failureCount := rfl

@[simp] theorem getField_encode_lastFailureTs :
    getField (encode provider st) "last_failure_ts" d = optFloat st.lastFailureTs := rfl

@[simp] theorem getField_encode_openedAt :
    getField (encode provider st) "opened_at" d = optFloat st.openedAt := rfl

@[simp] theorem getField_encode_halfOpenProbes :
    getField (encode provider st) "half_open_probes" d = .int st.halfOpenProbes := rfl

@[simp] theorem setItem_encode_state (s : String) :
    setItem (encode provider st) "state" (.str s) = encode provider { st with state := s } := rfl

@[simp] theorem setItem_encode_failureCount (n : Int) :
    setItem (encode provider st) "failure_count" (.int n) =
      encode provider { st with failureCount := n } := rfl

@[simp] theorem setItem_encode_lastFailureTs (t : ℚ) :
    setItem (encode provider st) "last_failure_ts" (.float t) =
      encode provider { st with lastFailureTs := some t } := rfl

@[simp] theorem setItem_encode_openedAt (t : ℚ) :
    setItem (encode provider st) "opened_at" (.float t) =
      encode provider { st with openedAt := some t } := rfl

@[simp] theorem setItem_encode_halfOpenProbes (n : Int) :
    setItem (encode provider st) "half_open_probes" (.int n) =
      encode provider { st with halfOpenProbes := n } := rfl

end Encode

@[simp] theorem written_encode (file : Option BreakerState) (st : BreakerState) :
    Written provider file (some st) (some (encode provider st)) := ⟨st, rfl, rfl⟩

theorem checkStateOn_encode (file : Option BreakerState) :
    ∃ w, checkStateOn cfg now (encode provider (CircuitBreaker.readState file)) =
        .ok ((CircuitBreaker.checkState cfg now file).1, w) ∧
      Written provider file (CircuitBreaker.checkState cfg now file).2 w := by
  simp only [checkStateOn, CircuitBreaker.checkState, pure_bind, getField_encode_state,
    getField_encode_openedAt, getField_encode_halfOpenProbes, truthy_optFloat, PyVal.eqStr,
    beq_iff_eq, PyVal.toNumber, PyVal.numeric, bind, Except.bind]
  generalize CircuitBreaker.readState file = st
  obtain ⟨s, fc, lts, oa, hop⟩ := st
  by_cases ho : s = "OPEN"
  · rw [if_pos ho, if_pos ho]
    cases oa with
    | none => exact ⟨_, rfl, rfl⟩
    | some t =>
      by_cases ht : t = 0
      · simp only [ht, truthy, bne_self_eq_false, false_and, if_false]
        exact ⟨_, rfl, rfl⟩
      · have htr : truthy (some t) = true := by simp [truthy, ht]
        simp only [htr, true_and, if_true, Option.getD_some, optFloat, PyVal.toFloat]
        split_ifs
        · exact ⟨_, rfl, written_encode file _⟩
        · exact ⟨_, rfl, rfl⟩
  · rw [if_neg ho, if_neg ho]
    split_ifs <;> exact ⟨_, rfl, rfl⟩

/-- `record_failure` in CLOSED on an encoded state counts as the typed call does. -/
theorem recordFailureOn_encode_closed {st : BreakerState} (hs : st.state = "CLOSED") :
    recordFailureOn cfg now (encode provider st) =
      let count := (if truthy st.lastFailureTs ∧
        now - st.lastFailureTs.getD 0 > cfg.countWindowSeconds then 0 else st.failureCount) + 1
      if (count : ℚ) ≥ cfg.failureThreshold then
        .ok ("OPEN", some (encode provider { st with
          failureCount := count, lastFailureTs := some now, state := "OPEN",
          openedAt := some now }))
      else .ok ("CLOSED", some (encode provider { st with
          failureCount := count, lastFailureTs := some now })) := by
  simp only [recordFailureOn, pure_bind, getField_encode_state, hs, PyVal.eqStr,
    getField_encode_lastFailureTs, truthy_optFloat, bind, Except.bind, pure, Except.pure]
  cases hl : st.lastFailureTs with
  | none => simp [truthy, PyVal.addOne, PyVal.toNumber, PyVal.numeric, hs]
  | some t =>
    by_cases hx : now - t > cfg.countWindowSeconds <;> by_cases ht : t = 0 <;>
    simp [truthy, optFloat, PyVal.toFloat, PyVal.addOne, PyVal.toNumber, PyVal.numeric, hx, ht,
      hs]

theorem recordFailureOn_encode (file : Option BreakerState) :
    ∃ w, recordFailureOn cfg now (encode provider (CircuitBreaker.readState file)) =
        .ok ((CircuitBreaker.recordFailure cfg now file).1, w) ∧
      Written provider file (CircuitBreaker.recordFailure cfg now file).2 w := by
  simp only [CircuitBreaker.recordFailure]
  generalize CircuitBreaker.readState file = st
  by_cases hh : st.state = "HALF_OPEN"
  · rw [if_pos hh]
    refine ⟨_, ?_, written_encode file _⟩
    simp [recordFailureOn, hh, PyVal.eqStr]
    rfl
  rw [if_neg hh]
  by_cases hc : st.state = "CLOSED"
  · rw [if_pos hc, recordFailureOn_encode_closed hc]
    dsimp only
    split_ifs <;> exact ⟨_, rfl, written_encode file _⟩
  · rw [if_neg hc]
    refine ⟨_, ?_, written_encode file _⟩
    simp [recordFailureOn, hh, hc, PyVal.eqStr]
    rfl

theorem recordSuccessOn_encode (file : Option BreakerState) :
    ∃ w, recordSuccessOn provider (encode provider (CircuitBreaker.readState file)) =
        .ok (.str (CircuitBreaker.recordSuccess file).1, w) ∧
      Written provider file (CircuitBreaker.recordSuccess file).2 w := by
  simp only [CircuitBreaker.recordSuccess]
  generalize CircuitBreaker.readState file = st
  by_cases hh : st.state = "HALF_OPEN"
  · rw [if_pos hh]
    refine ⟨_, ?_, written_encode file _⟩
    simp [recordSuccessOn, hh, PyVal.eqStr]
    rfl
  rw [if_neg hh]
  by_cases hc : st.state = "CLOSED"
  · rw [if_pos hc]
    split_ifs with hpos
    · refine ⟨_, ?_, written_encode file _⟩
      simp [recordSuccessOn, hc, PyVal.eqStr, PyVal.toNumber, PyVal.numeric, hpos, bind,
        Except.bind]
      rfl
    · refine ⟨none, ?_, rfl⟩
      simp [recordSuccessOn, hc, PyVal.eqStr, PyVal.toNumber, PyVal.numeric, hpos, bind,
        Except.bind]
      rfl
  · rw [if_neg hc]
    refine ⟨none, ?_, rfl⟩
    simp [recordSuccessOn, hh, hc, PyVal.eqStr]
    rfl

theorem incrementProbeOn_encode (file : Option BreakerState) :
    ∃ w, incrementProbeOn (encode provider (CircuitBreaker.readState file)) = .ok w ∧
      Written provider file (CircuitBreaker.incrementProbe file) w := by
  simp only [CircuitBreaker.incrementProbe]
  generalize CircuitBreaker.readState file = st
  split_ifs with hh
  · refine ⟨_, ?_, written_encode file _⟩
    simp [incrementProbeOn, hh, PyVal.eqStr, PyVal.addOne, bind, Except.bind]
    rfl
  · refine ⟨none, ?_, rfl⟩
    simp [incrementProbeOn, hh, PyVal.eqStr]
    rfl

/-- **The typed model is the code on its own records.** On a file that `_read_state` reads as
the dict `_write_state` writes for the typed state of `file`, no file and the default state
included, each call returns what the typed call returns, and writes nothing where the typed
call leaves the file as it is and otherwise the encoding of the typed state it writes. -/
theorem calls_on_written_record_match_typed (lib : Lib) (provider : String) (cfg : Config)
    (now : ℚ) (c : Option (Except PyErr (List UInt8))) (file : Option BreakerState)
    (h : readState lib provider c = .ok (encode provider (CircuitBreaker.readState file))) :
    (∃ w, checkState lib provider cfg now c =
        .ok ((CircuitBreaker.checkState cfg now file).1, w) ∧
      Written provider file (CircuitBreaker.checkState cfg now file).2 w) ∧
    (∃ w, recordFailure lib provider cfg now c =
        .ok ((CircuitBreaker.recordFailure cfg now file).1, w) ∧
      Written provider file (CircuitBreaker.recordFailure cfg now file).2 w) ∧
    (∃ w, recordSuccess lib provider c = .ok (.str (CircuitBreaker.recordSuccess file).1, w) ∧
      Written provider file (CircuitBreaker.recordSuccess file).2 w) ∧
    (∃ w, incrementProbe lib provider c = .ok w ∧
      Written provider file (CircuitBreaker.incrementProbe file) w) := by
  simp only [checkState, recordFailure, recordSuccess, incrementProbe, h, bind, Except.bind]
  exact ⟨checkStateOn_encode file, recordFailureOn_encode file, recordSuccessOn_encode file,
    incrementProbeOn_encode file⟩

/-- The record of a breaker opened at time 10 after five failures. -/
def openRecord : BreakerState := ⟨"OPEN", 5, some 10, some 10, 0⟩

/-- `json.loads` that reads the text `r` as the record `_write_state` writes for `openRecord`. -/
def openRecordLib : Lib :=
  ⟨fun text => if text = "r" then .ok (.dict (encode "openai" openRecord))
    else .error .jsonDecodeError⟩

/-- A check at time 100 on the written record of an open breaker moves it to `HALF_OPEN`, as the
typed check does, and writes the typed state it moves to. -/
theorem open_record_calls_match_typed :
    readState openRecordLib "openai" (some (.ok (utf8 "r"))) =
        .ok (encode "openai" (CircuitBreaker.readState (some openRecord))) ∧
      (CircuitBreaker.checkState {} 100 (some openRecord)).1 = "HALF_OPEN" ∧
      ∃ w, checkState openRecordLib "openai" {} 100 (some (.ok (utf8 "r"))) =
        .ok ((CircuitBreaker.checkState {} 100 (some openRecord)).1, w) ∧
      Written "openai" (some openRecord) (CircuitBreaker.checkState {} 100 (some openRecord)).2 w :=
  ⟨rfl, by norm_num [CircuitBreaker.checkState, CircuitBreaker.readState, openRecord, truthy],
    (calls_on_written_record_match_typed openRecordLib "openai" {} 100 (some (.ok (utf8 "r")))
      (some openRecord) rfl).1⟩

end File
end CircuitBreaker
end Cheval
