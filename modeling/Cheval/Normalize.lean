import Cheval.Python.Value

/-!
# `normalize_response`

`normalize_response` turns a provider's JSON answer into the `CompletionResult` dict. Both
callers hand it whatever `response.json()` returned, and the sidecar does so outside any
`try`, so two questions matter for every JSON value: does it return, and is what it returns
a `CompletionResult`?

Every step it takes reads through `dict.get`, `x[0]` and `for … in`, each of which raises on
some shape of value, and the only handler, around the body of the tool-call loop, catches
`TypeError` and `KeyError` but not the `AttributeError` that `.get` on a non-dict raises.
`normalizeResponse_ok_iff` says exactly which values it returns on (`Shaped`), so that a
`list` at the top, a string `choices`, a `message` that is not an object, a number for
`tool_calls` or a `null` `function` all raise (`normalize_response_raises`). On the values it
returns on, the fields are copied with `or` defaults and no type check, so `content`, the
token counts, and a tool call's `id`, `name` and `arguments` keep whatever type the provider
sent (`normalize_response_passes_ill_typed_fields`); `thinking` and the shape of `tool_calls`
do conform (`normalizeResponse_thinking_and_tool_calls`).

The tool-call loop is an order-preserving filter-map (`extract_tool_calls_filter_map`): on a
list of calls it keeps exactly the objects whose `function` is an object with a true `name`,
each rebuilt with its `id` or a hash-derived one, and answers `None` when it keeps none.

`content` and `thinking` are read from different keys of one message, and each stays out of the
other (`content_and_thinking_never_interfere`). Two answers that differ only in one key of
`choices[0].message` are two answers whose erasures of that key are equal (`eraseMessageKey`);
`normalize_response` commutes with erasing `reasoning_content` up to `thinking`, and with
erasing `content` up to `content`.

`hashlib.md5(json.dumps(call).encode()).hexdigest()` is the library's, taken as a parameter.
-/

set_option autoImplicit false

namespace Cheval
namespace Normalize

open Python

/-! ## 1. The functions -/

/-- What `normalize_response` calls from the library. -/
structure Lib where
  /-- `hashlib.md5(json.dumps(call).encode()).hexdigest()`. -/
  md5JsonHex : PyVal → String

/-- `_extract_usage`. -/
def extractUsage (raw : PyVal) : Except PyErr PyVal := do
  let usage ← raw.getD "usage" (.dict [])
  let usage := if usage.isDict then usage else .dict []
  let prompt ← usage.getD "prompt_tokens" (.int 0)
  let completion ← usage.getD "completion_tokens" (.int 0)
  let reasoning ← usage.getD "reasoning_tokens" (.int 0)
  return .dict [("prompt_tokens", prompt.orElse (.int 0)),
    ("completion_tokens", completion.orElse (.int 0)),
    ("reasoning_tokens", reasoning.orElse (.int 0))]

/-- The `metadata` entry of a result. -/
def metadata (raw traceId : PyVal) (latencyMs : ℚ) : Except PyErr PyVal := do
  let model ← raw.getD "model" (.str "")
  let id ← raw.get "id"
  return .dict [("model", model), ("provider_request_id", id), ("latency_ms", .float latencyMs),
    ("trace_id", traceId)]

/-- `_empty_result`. -/
def emptyResult (raw traceId : PyVal) (latencyMs : ℚ) : Except PyErr PyVal := do
  let usage ← extractUsage raw
  let md ← metadata raw traceId latencyMs
  return .dict [("content", .str ""), ("thinking", .none), ("tool_calls", .none),
    ("usage", usage), ("metadata", md)]

/-- `extract_thinking`. -/
def extractThinking (raw providerType : PyVal) : Except PyErr PyVal := do
  let choices ← raw.getD "choices" (.list [])
  if !choices.truthy then return .none
  let message ← (← choices.getItem0).getD "message" (.dict [])
  if providerType.eqStr "openai-compatible" then
    match ← message.get "reasoning_content" with
    | .str s => return if strip s ≠ "" then .str s else .none
    | _ => return .none
  else return .none

/-- The body of the `try` for one tool call; `none` where the call is skipped. -/
def extractToolCall (lib : Lib) (call : PyVal) : Except PyErr (Option PyVal) :=
  match call with
  | .dict _ => do
    let func ← call.getD "function" (.dict [])
    let name ← func.get "name"
    if !name.truthy then return none
    let id ← call.getD "id" (.str ("call_" ++ (lib.md5JsonHex call).take 8))
    let args ← func.getD "arguments" (.str "{}")
    return some (.dict [("id", id), ("type", .str "function"),
      ("function", .dict [("name", name), ("arguments", args)])])
  | _ => return none

/-- `except (TypeError, KeyError)`: the call is skipped. -/
def skipTypeAndKeyErrors : Except PyErr (Option PyVal) → Except PyErr (Option PyVal)
  | .error .typeError => .ok none
  | .error .keyError => .ok none
  | r => r

/-- `for call in raw_calls`, appending what each call gives. -/
def extractCalls (lib : Lib) : List PyVal → Except PyErr (List PyVal)
  | [] => .ok []
  | call :: rest => do
    let r ← skipTypeAndKeyErrors (extractToolCall lib call)
    let rs ← extractCalls lib rest
    return r.toList ++ rs

/-- `_extract_tool_calls`. -/
def extractToolCalls (lib : Lib) (message : PyVal) : Except PyErr PyVal := do
  let rawCalls ← message.get "tool_calls"
  if !rawCalls.truthy then return .none
  let result ← extractCalls lib (← rawCalls.iter)
  return if result.isEmpty then .none else .list result

/-- `normalize_response`. -/
def normalizeResponse (lib : Lib) (raw providerType traceId : PyVal) (latencyMs : ℚ) :
    Except PyErr PyVal := do
  let choices ← raw.getD "choices" (.list [])
  if !choices.truthy then emptyResult raw traceId latencyMs
  else
    let message ← (← choices.getItem0).getD "message" (.dict [])
    let content := (← message.getD "content" (.str "")).orElse (.str "")
    let thinking ← extractThinking raw providerType
    let toolCalls ← extractToolCalls lib message
    let usage ← extractUsage raw
    let md ← metadata raw traceId latencyMs
    return .dict [("content", content), ("thinking", thinking), ("tool_calls", toolCalls),
      ("usage", usage), ("metadata", md)]

/-! ## 2. When it returns -/

/-- A tool call the loop reads without raising: anything but a dict is skipped, and a dict's
`function` is absent or a dict. -/
def ToolCallShaped : PyVal → Prop
  | .dict items => ((items.lookup "function").getD (.dict [])).isDict = true
  | _ => True

/-- A `tool_calls` value `_extract_tool_calls` reads without raising: false, or iterable with
every element shaped. -/
def ToolCallsShaped (v : PyVal) : Prop :=
  v.truthy = false ∨ ∃ calls, v.iter = .ok calls ∧ ∀ c ∈ calls, ToolCallShaped c

/-- The answers `normalize_response` returns on: an object whose `choices` is false, or
a list whose first element is an object whose `message`, if present, is an object whose
`tool_calls` is shaped. -/
def Shaped : PyVal → Prop
  | .dict items =>
    ((items.lookup "choices").getD (.list [])).truthy = false ∨
      ∃ first m, ((items.lookup "choices").getD (.list [])).getItem0 = .ok (.dict first) ∧
        (first.lookup "message").getD (.dict []) = .dict m ∧
        ToolCallsShaped ((m.lookup "tool_calls").getD .none)
  | _ => False

theorem extractUsage_ok (items : List (String × PyVal)) : Ok (extractUsage (.dict items)) := by
  simp only [extractUsage, PyVal.getD_dict, bind, Except.bind]
  split_ifs with h
  · obtain ⟨u, hu⟩ : ∃ u, (items.lookup "usage").getD (.dict []) = .dict u := by
      revert h; cases (items.lookup "usage").getD (.dict []) <;> simp [PyVal.isDict]
    simp [hu, pure, Except.pure]
  · simp [pure, Except.pure]

theorem metadata_ok (items : List (String × PyVal)) (traceId : PyVal) (latencyMs : ℚ) :
    Ok (metadata (.dict items) traceId latencyMs) := by
  simp [metadata, PyVal.get, bind, Except.bind, pure, Except.pure]

theorem extractToolCall_ok_iff (lib : Lib) (c : PyVal) :
    Ok (skipTypeAndKeyErrors (extractToolCall lib c)) ↔ ToolCallShaped c := by
  cases c with
  | dict items =>
    simp only [ToolCallShaped, extractToolCall, PyVal.getD_dict, bind, Except.bind]
    cases (items.lookup "function").getD (.dict []) with
    | dict f =>
      simp only [PyVal.get, PyVal.getD_dict, PyVal.isDict, iff_true]
      split <;> simp [skipTypeAndKeyErrors, pure, Except.pure]
    | _ => simp [PyVal.get, PyVal.getD, PyVal.isDict, skipTypeAndKeyErrors]
  | _ => simp [ToolCallShaped, extractToolCall, skipTypeAndKeyErrors, pure, Except.pure]

theorem extractCalls_ok_iff (lib : Lib) (cs : List PyVal) :
    Ok (extractCalls lib cs) ↔ ∀ c ∈ cs, ToolCallShaped c := by
  induction cs with
  | nil => simp [extractCalls]
  | cons c cs ih =>
    simp only [extractCalls, ok_bind, ok_pure, and_true, List.mem_cons, forall_eq_or_imp]
    rw [← extractToolCall_ok_iff lib c, ← ih]
    exact exists_and_right

theorem extractToolCalls_ok_iff (lib : Lib) (m : List (String × PyVal)) :
    Ok (extractToolCalls lib (.dict m)) ↔ ToolCallsShaped ((m.lookup "tool_calls").getD .none) := by
  simp only [extractToolCalls, PyVal.get, PyVal.getD_dict, bind, Except.bind, ToolCallsShaped]
  cases ht : ((m.lookup "tool_calls").getD .none).truthy
  · simp [pure, Except.pure]
  · cases hv : ((m.lookup "tool_calls").getD .none).iter with
    | error e => simp [pure, Except.pure]
    | ok calls =>
      simp only [Bool.not_true, Bool.false_eq_true, if_false, Except.ok.injEq, exists_eq_left',
        false_or, ← extractCalls_ok_iff lib calls]
      cases extractCalls lib calls <;> simp [pure, Except.pure]

theorem extractThinking_ok {items first m : List (String × PyVal)} (providerType : PyVal)
    (h0 : ((items.lookup "choices").getD (.list [])).getItem0 = .ok (.dict first))
    (hm : (first.lookup "message").getD (.dict []) = .dict m) :
    Ok (extractThinking (.dict items) providerType) := by
  simp only [extractThinking, PyVal.getD_dict, bind, Except.bind, h0, hm, PyVal.get, pure,
    Except.pure]
  split
  · simp
  · split_ifs
    · split <;> simp
    · simp

/-- **When `normalize_response` returns.** On every JSON value and provider type it returns
exactly on the `Shaped` values; on every other value it raises. -/
theorem normalizeResponse_ok_iff (lib : Lib) (raw providerType traceId : PyVal)
    (latencyMs : ℚ) :
    Ok (normalizeResponse lib raw providerType traceId latencyMs) ↔ Shaped raw := by
  cases raw with
  | dict items =>
    simp only [normalizeResponse, PyVal.getD_dict, Shaped, bind, Except.bind]
    cases hc : ((items.lookup "choices").getD (.list [])).truthy
    · simp only [Bool.not_false, if_true, true_or, iff_true]
      obtain ⟨u, hu⟩ := extractUsage_ok items
      obtain ⟨d, hd⟩ := metadata_ok items traceId latencyMs
      simp [emptyResult, bind, Except.bind, hu, hd, pure, Except.pure]
    · simp only [Bool.not_true, Bool.false_eq_true, if_false, false_or]
      cases h0 : ((items.lookup "choices").getD (.list [])).getItem0 with
      | error e => simp
      | ok c0 =>
        cases c0 with
        | dict first =>
          simp only [Except.ok.injEq, PyVal.dict.injEq, Bool.true_eq_false, false_or,
            exists_and_left, exists_eq_left']
          cases hm : (first.lookup "message").getD (.dict []) with
          | dict m =>
            obtain ⟨t, ht⟩ := extractThinking_ok providerType h0 hm
            obtain ⟨u, hu⟩ := extractUsage_ok items
            obtain ⟨d, hd⟩ := metadata_ok items traceId latencyMs
            simp only [PyVal.getD_dict, hm, ht, hu, hd, PyVal.dict.injEq, exists_eq_left',
              ← extractToolCalls_ok_iff lib m]
            cases extractToolCalls lib (.dict m) <;> simp [pure, Except.pure]
          | _ => simp [PyVal.getD, hm]
        | _ => simp [PyVal.getD]
  | _ => simp [normalizeResponse, Shaped, PyVal.getD, bind, Except.bind]

/-- **`normalize_response` raises on provider answers**, whatever the library and the
provider type: on a list, on a string `choices`, on a `message` that is a string, on a number
for `tool_calls`, and on a tool call whose `function` is `null`. -/
theorem normalize_response_raises (lib : Lib) (providerType traceId : PyVal) (latencyMs : ℚ) :
    normalizeResponse lib (.list []) providerType traceId latencyMs = .error .attributeError ∧
      normalizeResponse lib (.dict [("choices", .str "x")]) providerType traceId latencyMs =
        .error .attributeError ∧
      normalizeResponse lib (.dict [("choices", .list [.dict [("message", .str "x")]])])
        providerType traceId latencyMs = .error .attributeError ∧
      normalizeResponse lib (.dict [("choices", .list [.dict [("message",
        .dict [("tool_calls", .int 5)])]])]) providerType traceId latencyMs = .error .typeError ∧
      normalizeResponse lib (.dict [("choices", .list [.dict [("message",
        .dict [("tool_calls", .list [.dict [("function", .none)]])])]])])
        providerType traceId latencyMs = .error .attributeError := by
  refine ⟨rfl, rfl, rfl, ?_, ?_⟩ <;>
    cases h : providerType.eqStr "openai-compatible" <;>
      simp [normalizeResponse, extractThinking, h] <;> rfl

/-! ## 3. What it returns -/

/-- `v.get(k)` on a dict, `none` where the key is absent or `v` is no dict. -/
def field (v : PyVal) (k : String) : Option PyVal :=
  match v with
  | .dict items => items.lookup k
  | _ => none

/-- A `str` holding a character that is not whitespace. -/
def NonBlank : PyVal → Prop
  | .str s => ∃ c ∈ s.data, isSpace c = false
  | _ => False

/-- A tool call as `CanonicalResult` has it: a string `id`, `type` `"function"`, and a
`function` with a non-empty string `name` and string `arguments`. -/
def CanonicalToolCall (v : PyVal) : Prop :=
  (∃ id, field v "id" = some (.str id)) ∧ field v "type" = some (.str "function") ∧
    ∃ f, field v "function" = some f ∧ (∃ name, field f "name" = some (.str name) ∧ name ≠ "") ∧
      ∃ args, field f "arguments" = some (.str args)

/-- `CanonicalResult`: a string `content`; `thinking` `None` or a string with a character that
is not whitespace; `tool_calls` `None` or a non-empty list of canonical tool calls; and
integer token counts. -/
def CanonicalResult (v : PyVal) : Prop :=
  (∃ content, field v "content" = some (.str content)) ∧
    (field v "thinking" = some .none ∨ ∃ t, field v "thinking" = some t ∧ NonBlank t) ∧
    (field v "tool_calls" = some .none ∨
      ∃ c cs, field v "tool_calls" = some (.list (c :: cs)) ∧ ∀ x ∈ c :: cs, CanonicalToolCall x) ∧
    ∃ usage, field v "usage" = some usage ∧
      ∀ k ∈ ["prompt_tokens", "completion_tokens", "reasoning_tokens"],
        ∃ n : Int, field usage k = some (.int n)

/-- An answer whose `content` is a list and whose `prompt_tokens` is a string. -/
def listContentAnswer : PyVal :=
  .dict [("choices", .list [.dict [("message", .dict [("content", .list [.str "a"])])]]),
    ("usage", .dict [("prompt_tokens", .str "5")])]

/-- **`normalize_response` returns what is not a `CompletionResult`**: on
`listContentAnswer` it returns, with the list as `content` and the string as
`prompt_tokens`. -/
theorem normalize_response_passes_ill_typed_fields (lib : Lib) (providerType traceId : PyVal)
    (latencyMs : ℚ) :
    ∃ v, normalizeResponse lib listContentAnswer providerType traceId latencyMs = .ok v ∧
      field v "content" = some (.list [.str "a"]) ∧
      (field v "usage").bind (field · "prompt_tokens") = some (.str "5") ∧
      ¬ CanonicalResult v := by
  refine ⟨.dict [("content", .list [.str "a"]), ("thinking", .none), ("tool_calls", .none),
    ("usage", .dict [("prompt_tokens", .str "5"), ("completion_tokens", .int 0),
      ("reasoning_tokens", .int 0)]),
    ("metadata", .dict [("model", .str ""), ("provider_request_id", .none),
      ("latency_ms", .float latencyMs), ("trace_id", traceId)])],
    ?_, rfl, rfl, fun ⟨⟨c, hc⟩, _⟩ => by simp [field] at hc⟩
  cases h : providerType.eqStr "openai-compatible" <;>
    simp [normalizeResponse, extractThinking, listContentAnswer, h] <;> rfl

theorem nonBlank_of_strip {s : String} (h : strip s ≠ "") : NonBlank (.str s) := by
  simpa [NonBlank, strip_eq_empty_iff] using h

/-- What `extract_thinking` returns is `None` or a string that is not blank. -/
theorem extractThinking_result {raw t providerType : PyVal}
    (h : extractThinking raw providerType = .ok t) : t = .none ∨ NonBlank t := by
  simp only [extractThinking, bind, Except.bind, pure, Except.pure] at h
  repeat' split at h
  all_goals cases h
  all_goals first
    | exact .inl rfl
    | exact .inr (nonBlank_of_strip ‹_›)

/-- What the tool-call loop appends: `type` `"function"`, and a `function` whose `name` is
true. -/
def ToolCallOut (x : PyVal) : Prop :=
  field x "type" = some (.str "function") ∧
    ∃ f name, field x "function" = some f ∧ field f "name" = some name ∧ name.truthy = true

theorem skipTypeAndKeyErrors_error_ne (e : PyErr) (x : PyVal) :
    skipTypeAndKeyErrors (.error e) ≠ .ok (some x) := by
  cases e <;> simp [skipTypeAndKeyErrors]

theorem extractToolCall_result {lib : Lib} {c x : PyVal}
    (h : skipTypeAndKeyErrors (extractToolCall lib c) = .ok (some x)) : ToolCallOut x := by
  cases c with
  | dict items =>
    simp only [extractToolCall, bind, Except.bind, pure, Except.pure] at h
    repeat' split at h
    all_goals first
      | exact absurd h (skipTypeAndKeyErrors_error_ne _ _)
      | simp only [skipTypeAndKeyErrors, reduceCtorEq, Except.ok.injEq, Option.some.injEq] at h
    subst h
    exact ⟨rfl, _, _, rfl, rfl, by simpa using ‹¬ (!_) = true›⟩
  | _ => simp [extractToolCall, skipTypeAndKeyErrors, pure, Except.pure] at h

theorem extractCalls_result {lib : Lib} :
    ∀ {cs rs : List PyVal}, extractCalls lib cs = .ok rs → ∀ x ∈ rs, ToolCallOut x
  | [], rs, h => by cases h; simp
  | c :: cs, rs, h => by
    obtain ⟨r, hr, rs', hrs, h⟩ := by simpa only [extractCalls, bind_eq_ok] using h
    cases h
    intro x hx
    rcases List.mem_append.1 hx with hx | hx
    · exact extractToolCall_result (Option.mem_toList.1 hx ▸ hr)
    · exact extractCalls_result hrs x hx

/-- What `_extract_tool_calls` returns is `None` or a non-empty list of appended calls. -/
theorem extractToolCalls_result {lib : Lib} {message tc : PyVal}
    (h : extractToolCalls lib message = .ok tc) :
    tc = .none ∨ ∃ c cs, tc = .list (c :: cs) ∧ ∀ x ∈ c :: cs, ToolCallOut x := by
  simp only [extractToolCalls, bind, Except.bind, pure, Except.pure] at h
  repeat' split at h
  all_goals cases h
  all_goals first
    | exact .inl rfl
    | next rs _ hrs hne =>
      obtain ⟨c, cs, rfl⟩ := List.exists_cons_of_ne_nil (by simpa using hne)
      exact .inr ⟨c, cs, rfl, extractCalls_result hrs⟩

/-- **What `normalize_response` does check**: when it returns, `thinking` is `None` or a string
that is not all whitespace, and `tool_calls` is `None` or a non-empty list of calls of type
`"function"` whose `function` has a truthy `name`. -/
theorem normalizeResponse_thinking_and_tool_calls {lib : Lib} {raw v : PyVal}
    {providerType traceId : PyVal} {latencyMs : ℚ}
    (h : normalizeResponse lib raw providerType traceId latencyMs = .ok v) :
    (field v "thinking" = some .none ∨ ∃ t, field v "thinking" = some t ∧ NonBlank t) ∧
      (field v "tool_calls" = some .none ∨ ∃ c cs, field v "tool_calls" = some (.list (c :: cs)) ∧
        ∀ x ∈ c :: cs, ToolCallOut x) := by
  simp only [normalizeResponse, emptyResult, bind, Except.bind, pure, Except.pure] at h
  repeat' split at h
  all_goals cases h
  · exact ⟨.inl rfl, .inl rfl⟩
  · refine ⟨(extractThinking_result ‹extractThinking _ _ = _›).imp (congrArg some) (⟨_, rfl, ·⟩),
      ?_⟩
    rcases extractToolCalls_result ‹extractToolCalls _ _ = _› with rfl | ⟨c, cs, rfl, hcs⟩
    · exact .inl rfl
    · exact .inr ⟨c, cs, rfl, hcs⟩

/-- An answer with reasoning and one tool call, which has no `type` of its own. -/
def toolCallAnswer : PyVal :=
  .dict [("choices", .list [.dict [("message", .dict [("content", .none),
    ("reasoning_content", .str "plan"),
    ("tool_calls", .list [.dict [("function", .dict [("name", .str "search")])]])])]])]

theorem tool_call_answer_conforms :
    ∃ v, normalizeResponse ⟨fun _ => "0"⟩ toolCallAnswer (.str "openai-compatible") (.str "t") 0 =
        .ok v ∧
      ((field v "thinking" = some .none ∨ ∃ t, field v "thinking" = some t ∧ NonBlank t) ∧
        (field v "tool_calls" = some .none ∨ ∃ c cs,
          field v "tool_calls" = some (.list (c :: cs)) ∧ ∀ x ∈ c :: cs, ToolCallOut x)) :=
  ⟨_, rfl, @normalizeResponse_thinking_and_tool_calls ⟨fun _ => "0"⟩ toolCallAnswer _
    (.str "openai-compatible") (.str "t") 0 rfl⟩

/-! ## 4. The tool-call loop is a filter-map -/

/-- A tool call the loop keeps, in the words of its contract: an object whose `function` is an
object with a true `name`. -/
def validToolCall (c : PyVal) : Bool :=
  match field c "function" with
  | some (.dict f) => ((f.lookup "name").getD .none).truthy
  | _ => false

/-- The contract's output for a valid call: its `id`, or `call_` and the first eight hex digits
of the md5 of its JSON; type `function`; the function's `name`, and its `arguments` with
`"{}"` by default. -/
def contractToolCall (lib : Lib) (c : PyVal) : PyVal :=
  let f := (field c "function").getD (.dict [])
  .dict [("id", (field c "id").getD (.str ("call_" ++ (lib.md5JsonHex c).take 8))),
    ("type", .str "function"),
    ("function", .dict [("name", (field f "name").getD .none),
      ("arguments", (field f "arguments").getD (.str "{}"))])]

/-- One turn of the loop, when it does not raise, keeps the call as the contract says. -/
theorem extractToolCall_eq_contract {lib : Lib} {c : PyVal} {o : Option PyVal}
    (h : skipTypeAndKeyErrors (extractToolCall lib c) = .ok o) :
    o = if validToolCall c then some (contractToolCall lib c) else none := by
  cases c with
  | dict items =>
    simp only [extractToolCall, validToolCall, contractToolCall, field, PyVal.getD_dict, bind,
      Except.bind] at h ⊢
    cases hf : items.lookup "function" with
    | none =>
      simp [hf, PyVal.get, PyVal.truthy, skipTypeAndKeyErrors, pure, Except.pure] at h
      exact h.symm
    | some func =>
      cases func with
      | dict f =>
        simp only [hf, Option.getD_some, PyVal.get, PyVal.getD_dict] at h ⊢
        split_ifs at h with hname <;>
          simp_all [skipTypeAndKeyErrors, pure, Except.pure]
      | _ => simp [hf, PyVal.get, PyVal.getD, skipTypeAndKeyErrors] at h
  | _ => simpa [extractToolCall, skipTypeAndKeyErrors, validToolCall, field, pure,
      Except.pure] using h.symm

theorem extractCalls_eq_filter_map {lib : Lib} :
    ∀ {cs rs : List PyVal}, extractCalls lib cs = .ok rs →
      rs = (cs.filter validToolCall).map (contractToolCall lib)
  | [], rs, h => by cases h; rfl
  | c :: cs, rs, h => by
    obtain ⟨o, ho, rs', hrs, h⟩ := by simpa only [extractCalls, bind_eq_ok] using h
    cases h
    rw [extractToolCall_eq_contract ho, extractCalls_eq_filter_map hrs, List.filter_cons]
    split <;> rfl

/-- **`_extract_tool_calls` is an order-preserving filter-map.** On every message whose
`tool_calls` is a list, when it returns, it returns `None` exactly when no call is valid, and
otherwise the valid calls, in order, each as the contract makes it. -/
theorem extract_tool_calls_filter_map {lib : Lib} {m : List (String × PyVal)}
    {calls : List PyVal} {r : PyVal} (hcalls : m.lookup "tool_calls" = some (.list calls))
    (h : extractToolCalls lib (.dict m) = .ok r) :
    (r = .none ↔ ∀ c ∈ calls, validToolCall c = false) ∧
      (r ≠ .none → r = .list ((calls.filter validToolCall).map (contractToolCall lib))) := by
  simp only [extractToolCalls, PyVal.get, PyVal.getD_dict, hcalls, Option.getD_some, bind,
    Except.bind, PyVal.iter, pure, Except.pure] at h
  cases calls with
  | nil => simp [PyVal.truthy] at h; simp [← h]
  | cons c cs =>
    simp only [PyVal.truthy, List.isEmpty_cons, Bool.not_false, Bool.not_true,
      Bool.false_eq_true, if_false] at h
    split at h
    · cases h
    · next rs hrs =>
      rw [extractCalls_eq_filter_map hrs] at h
      cases h
      split <;> simp_all [List.filter_eq_nil_iff]

/-- A string, a valid call without an `id`, and a call whose `function` has no name. -/
def mixedCalls : List PyVal :=
  [.str "x", .dict [("function", .dict [("name", .str "search")])],
    .dict [("id", .str "c2"), ("function", .dict [])]]

theorem mixed_tool_calls_filtered :
    ∃ r, extractToolCalls ⟨fun _ => "0123456789"⟩ (.dict [("tool_calls", .list mixedCalls)]) =
        .ok r ∧
      ((r = .none ↔ ∀ c ∈ mixedCalls, validToolCall c = false) ∧
        (r ≠ .none → r = .list ((mixedCalls.filter validToolCall).map
          (contractToolCall ⟨fun _ => "0123456789"⟩)))) :=
  ⟨_, rfl, @extract_tool_calls_filter_map _ [("tool_calls", .list mixedCalls)] _ _ rfl rfl⟩

example : (mixedCalls.filter validToolCall).length = 1 := by decide

/-! ## 5. Content and thinking do not interfere -/

/-- A dict with the values bound to `key` passed through `g`. -/
def updateAt (key : String) (g : PyVal → PyVal) (items : List (String × PyVal)) :
    List (String × PyVal) :=
  items.map fun kv => if kv.1 = key then (kv.1, g kv.2) else kv

/-- `v` with the value under `key` passed through `g`, where `v` is a dict. -/
def updateField (key : String) (g : PyVal → PyVal) : PyVal → PyVal
  | .dict items => .dict (updateAt key g items)
  | v => v

/-- A dict without its bindings of `key`. -/
def eraseKey (key : String) : PyVal → PyVal
  | .dict items => .dict (items.filter (·.1 != key))
  | v => v

/-- `choices` with `key` taken out of the first choice's `message`. -/
def eraseInChoices (key : String) : PyVal → PyVal
  | .list (.dict first :: rest) => .list (.dict (updateAt "message" (eraseKey key) first) :: rest)
  | v => v

/-- A raw answer with `key` taken out of `choices[0].message`. Two answers differ only in
that field exactly when their erasures are equal. -/
def eraseMessageKey (key : String) : PyVal → PyVal := updateField "choices" (eraseInChoices key)

theorem lookup_updateAt (key k : String) (g : PyVal → PyVal) (items : List (String × PyVal)) :
    (updateAt key g items).lookup k =
      if k = key then (items.lookup k).map g else items.lookup k := by
  induction items with
  | nil => simp [updateAt]
  | cons kv rest ih =>
    obtain ⟨k', v⟩ := kv
    have hcons : updateAt key g ((k', v) :: rest) =
        (if k' = key then (k', g v) else (k', v)) :: updateAt key g rest := rfl
    by_cases hk' : k' = key
    · subst hk'
      rw [hcons, if_pos rfl, lookup_cons_ite, lookup_cons_ite, ih]
      by_cases hk : k = k' <;> simp [hk]
    · rw [hcons, if_neg hk', lookup_cons_ite, lookup_cons_ite, ih]
      by_cases hk : k = key <;> simp [hk, Ne.symm hk']

theorem lookup_filter_ne (key k : String) (items : List (String × PyVal)) :
    (items.filter (·.1 != key)).lookup k = if k = key then none else items.lookup k := by
  induction items with
  | nil => simp
  | cons kv rest ih =>
    obtain ⟨k', v⟩ := kv
    by_cases hk' : k' = key
    · subst hk'
      rw [List.filter_cons_of_neg (by simp), ih, lookup_cons_ite]
      by_cases hk : k = k' <;> simp [hk]
    · rw [List.filter_cons_of_pos (by simpa using hk'), lookup_cons_ite, lookup_cons_ite, ih]
      by_cases hk : k = key <;> simp [hk, Ne.symm hk']

theorem getD_eraseMessageKey_choices (key : String) (raw : PyVal) :
    (eraseMessageKey key raw).getD "choices" (.list []) =
      (raw.getD "choices" (.list [])).map (eraseInChoices key) := by
  cases raw with
  | dict items =>
    simp only [eraseMessageKey, updateField, PyVal.getD_dict, lookup_updateAt, if_true]
    cases items.lookup "choices" <;> rfl
  | _ => rfl

theorem getD_eraseMessageKey_of_ne {key k : String} (h : k ≠ "choices") (raw d : PyVal) :
    (eraseMessageKey key raw).getD k d = raw.getD k d := by
  cases raw <;> simp [eraseMessageKey, updateField, PyVal.getD, lookup_updateAt, h]

theorem getD_eraseKey_of_ne {key k : String} (h : k ≠ key) (m d : PyVal) :
    (eraseKey key m).getD k d = m.getD k d := by
  cases m <;> simp [eraseKey, PyVal.getD, lookup_filter_ne, h]

theorem truthy_eraseInChoices (key : String) (c : PyVal) :
    (eraseInChoices key c).truthy = c.truthy := by
  unfold eraseInChoices; split <;> rfl

/-- Reading `choices[0].get("message", {})` through the erasure reads the erased message. -/
theorem message_eraseInChoices {α : Type} (key : String) (c : PyVal)
    (f : PyVal → Except PyErr α) :
    ((eraseInChoices key c).getItem0 >>= fun c0 => c0.getD "message" (.dict []) >>= f) =
      (c.getItem0 >>= fun c0 => c0.getD "message" (.dict []) >>= fun m => f (eraseKey key m)) := by
  unfold eraseInChoices
  split
  · next first rest =>
    simp only [PyVal.getItem0, PyVal.getD_dict, lookup_updateAt, if_true, bind, Except.bind]
    cases first.lookup "message" <;> rfl
  · next hne =>
    cases c with
    | list xs =>
      cases xs with
      | nil => rfl
      | cons x rest =>
        cases x with
        | dict first => exact absurd rfl (hne first rest)
        | _ => rfl
    | str s => simp only [PyVal.getItem0]; split <;> rfl
    | _ => rfl

theorem choices_eraseMessageKey {α : Type} (key : String) (raw : PyVal)
    (g : PyVal → Except PyErr α) :
    ((eraseMessageKey key raw).getD "choices" (.list []) >>= g) =
      (raw.getD "choices" (.list []) >>= fun c => g (eraseInChoices key c)) := by
  rw [getD_eraseMessageKey_choices]
  cases raw.getD "choices" (.list []) <;> rfl

theorem extractThinking_eraseMessageKey {key : String} (h : key ≠ "reasoning_content")
    (raw providerType : PyVal) :
    extractThinking (eraseMessageKey key raw) providerType = extractThinking raw providerType := by
  simp only [extractThinking, choices_eraseMessageKey, truthy_eraseInChoices,
    message_eraseInChoices, PyVal.get, getD_eraseKey_of_ne (Ne.symm h)]

theorem getD_eraseKey_self (key : String) (m d : PyVal) :
    (eraseKey key m).getD key d = (fun _ => d) <$> m.getD key d := by
  cases m <;> simp [eraseKey, PyVal.getD, lookup_filter_ne]

theorem extractThinking_eraseReasoning (raw providerType : PyVal) :
    extractThinking (eraseMessageKey "reasoning_content" raw) providerType =
      (fun _ => .none) <$> extractThinking raw providerType := by
  simp only [extractThinking, choices_eraseMessageKey, truthy_eraseInChoices,
    message_eraseInChoices, PyVal.get, getD_eraseKey_self, map_bind, apply_ite, map_pure,
    bind_map_left]
  refine congrArg (raw.getD "choices" (.list []) >>= ·) (funext fun c => ?_)
  split_ifs
  · rfl
  · refine congrArg (pure PUnit.unit >>= ·) (funext fun _ => congrArg (c.getItem0 >>= ·)
      (funext fun c0 => congrArg (c0.getD "message" (.dict []) >>= ·) (funext fun m =>
        congrArg (m.getD "reasoning_content" .none >>= ·) (funext fun a => ?_))))
    split
    · split_ifs <;> rfl
    · rfl
  · rfl

theorem extractToolCalls_eraseKey {key : String} (h : key ≠ "tool_calls") (lib : Lib)
    (m : PyVal) : extractToolCalls lib (eraseKey key m) = extractToolCalls lib m := by
  simp only [extractToolCalls, PyVal.get, getD_eraseKey_of_ne (Ne.symm h)]

theorem extractUsage_eraseMessageKey (key : String) (raw : PyVal) :
    extractUsage (eraseMessageKey key raw) = extractUsage raw := by
  simp only [extractUsage, getD_eraseMessageKey_of_ne (by decide : "usage" ≠ "choices")]

theorem metadata_eraseMessageKey (key : String) (raw traceId : PyVal) (latencyMs : ℚ) :
    metadata (eraseMessageKey key raw) traceId latencyMs = metadata raw traceId latencyMs := by
  simp only [metadata, PyVal.get, getD_eraseMessageKey_of_ne (by decide : "model" ≠ "choices"),
    getD_eraseMessageKey_of_ne (by decide : "id" ≠ "choices")]

theorem emptyResult_eraseMessageKey (key : String) (raw traceId : PyVal) (latencyMs : ℚ) :
    emptyResult (eraseMessageKey key raw) traceId latencyMs =
      emptyResult raw traceId latencyMs := by
  simp only [emptyResult, extractUsage_eraseMessageKey, metadata_eraseMessageKey]

theorem emptyResult_thinking (raw traceId : PyVal) (latencyMs : ℚ) :
    updateField "thinking" (fun _ => .none) <$> emptyResult raw traceId latencyMs =
      emptyResult raw traceId latencyMs := by
  simp only [emptyResult, map_bind, map_pure, updateField, updateAt, List.map_cons, List.map_nil,
    String.reduceEq, if_false, if_true]

/-- **Erasing the reasoning changes only `thinking`**: on every raw answer and provider type,
`normalize_response` of the answer without `choices[0].message.reasoning_content` is its
result on the answer with `thinking` set to `None`, raising where it raises. -/
theorem normalizeResponse_eraseReasoning (lib : Lib) (raw providerType traceId : PyVal)
    (latencyMs : ℚ) :
    normalizeResponse lib (eraseMessageKey "reasoning_content" raw) providerType traceId
        latencyMs =
      updateField "thinking" (fun _ => .none) <$>
        normalizeResponse lib raw providerType traceId latencyMs := by
  simp only [normalizeResponse, choices_eraseMessageKey, truthy_eraseInChoices,
    message_eraseInChoices, getD_eraseKey_of_ne (by decide : "content" ≠ "reasoning_content"),
    extractThinking_eraseReasoning, extractToolCalls_eraseKey
      (by decide : "reasoning_content" ≠ "tool_calls"),
    emptyResult_eraseMessageKey, extractUsage_eraseMessageKey, metadata_eraseMessageKey, map_bind,
    apply_ite, map_pure, bind_map_left, updateField, updateAt, List.map_cons, List.map_nil,
    String.reduceEq, if_false, if_true, emptyResult_thinking]

theorem emptyResult_content (raw traceId : PyVal) (latencyMs : ℚ) :
    updateField "content" (fun _ => .str "") <$> emptyResult raw traceId latencyMs =
      emptyResult raw traceId latencyMs := by
  simp only [emptyResult, map_bind, map_pure, updateField, updateAt, List.map_cons, List.map_nil,
    String.reduceEq, if_false, if_true]

/-- **Erasing the content changes only `content`**: on every raw answer and provider type,
`normalize_response` of the answer without `choices[0].message.content` is its result on the
answer with `content` set to `""`, raising where it raises. -/
theorem normalizeResponse_eraseContent (lib : Lib) (raw providerType traceId : PyVal)
    (latencyMs : ℚ) :
    normalizeResponse lib (eraseMessageKey "content" raw) providerType traceId latencyMs =
      updateField "content" (fun _ => .str "") <$>
        normalizeResponse lib raw providerType traceId latencyMs := by
  simp only [normalizeResponse, choices_eraseMessageKey, truthy_eraseInChoices,
    message_eraseInChoices, getD_eraseKey_self,
    extractThinking_eraseMessageKey (by decide : "content" ≠ "reasoning_content"),
    extractToolCalls_eraseKey (by decide : "content" ≠ "tool_calls"),
    emptyResult_eraseMessageKey, extractUsage_eraseMessageKey, metadata_eraseMessageKey, map_bind,
    apply_ite, map_pure, bind_map_left, updateField, updateAt, List.map_cons, List.map_nil,
    String.reduceEq, if_false, if_true, emptyResult_content]
  rfl

theorem field_updateField_of_ne {key k : String} (h : k ≠ key) (g : PyVal → PyVal) (v : PyVal) :
    field (updateField key g v) k = field v k := by
  cases v <;> simp [updateField, field, lookup_updateAt, h]

/-- Where erasing `key` acts on the result as `g`, two answers with equal erasures on which
`normalize_response` returns give results equal after `g`. -/
theorem eq_of_eraseMessageKey {lib : Lib} {providerType traceId : PyVal} {latencyMs : ℚ}
    {key : String} {g : PyVal → PyVal}
    (hcomm : ∀ raw, normalizeResponse lib (eraseMessageKey key raw) providerType traceId latencyMs =
      g <$> normalizeResponse lib raw providerType traceId latencyMs)
    {raw₁ raw₂ v₁ v₂ : PyVal} (hsame : eraseMessageKey key raw₁ = eraseMessageKey key raw₂)
    (h₁ : normalizeResponse lib raw₁ providerType traceId latencyMs = .ok v₁)
    (h₂ : normalizeResponse lib raw₂ providerType traceId latencyMs = .ok v₂) : g v₁ = g v₂ :=
  ok_unique ((hcomm raw₁).trans (by rw [h₁]; rfl))
    (hsame ▸ (hcomm raw₂).trans (by rw [h₂]; rfl))

/-- **Content and thinking never interfere.** For every provider type, two raw answers that
differ only in `choices[0].message.reasoning_content` and on both of which
`normalize_response` returns give equal `content`, `tool_calls`, `usage` and `metadata`; two
that differ only in `choices[0].message.content` give equal `thinking`. -/
theorem content_and_thinking_never_interfere (lib : Lib) (providerType traceId : PyVal)
    (latencyMs : ℚ) :
    (∀ raw₁ raw₂ v₁ v₂,
      eraseMessageKey "reasoning_content" raw₁ = eraseMessageKey "reasoning_content" raw₂ →
      normalizeResponse lib raw₁ providerType traceId latencyMs = .ok v₁ →
      normalizeResponse lib raw₂ providerType traceId latencyMs = .ok v₂ →
      ∀ k ∈ ["content", "tool_calls", "usage", "metadata"], field v₁ k = field v₂ k) ∧
    (∀ raw₁ raw₂ v₁ v₂,
      eraseMessageKey "content" raw₁ = eraseMessageKey "content" raw₂ →
      normalizeResponse lib raw₁ providerType traceId latencyMs = .ok v₁ →
      normalizeResponse lib raw₂ providerType traceId latencyMs = .ok v₂ →
      field v₁ "thinking" = field v₂ "thinking") := by
  constructor
  · intro raw₁ raw₂ v₁ v₂ hsame h₁ h₂ k hk
    have hne : k ≠ "thinking" := by rintro rfl; revert hk; decide
    rw [← field_updateField_of_ne hne (fun _ => .none) v₁,
      eq_of_eraseMessageKey (normalizeResponse_eraseReasoning lib · _ _ _) hsame h₁ h₂,
      field_updateField_of_ne hne]
  · intro raw₁ raw₂ v₁ v₂ hsame h₁ h₂
    have hne : "thinking" ≠ "content" := by decide
    rw [← field_updateField_of_ne hne (fun _ => .str "") v₁,
      eq_of_eraseMessageKey (normalizeResponse_eraseContent lib · _ _ _) hsame h₁ h₂,
      field_updateField_of_ne hne]

/-- An OpenAI-compatible answer whose message holds `content` and `reasoning_content`. -/
def reasonedAnswer (content reasoning : String) : PyVal :=
  .dict [("choices", .list [.dict [("message",
    .dict [("content", .str content), ("reasoning_content", .str reasoning)])]])]

/-- What `normalize_response` returns on `reasonedAnswer content reasoning` at trace `t` and
latency 5. -/
def reasonedResult (content reasoning : String) : PyVal :=
  .dict [("content", .str content), ("thinking", .str reasoning), ("tool_calls", .none),
    ("usage", .dict [("prompt_tokens", .int 0), ("completion_tokens", .int 0),
      ("reasoning_tokens", .int 0)]),
    ("metadata", .dict [("model", .str ""), ("provider_request_id", .none),
      ("latency_ms", .float 5), ("trace_id", .str "t")])]

/-- Two answers that differ only in their reasoning keep one content while their thinking
differs, and two that differ only in their content keep one thinking while their content
differs. -/
theorem reasoning_and_content_kept_apart :
    eraseMessageKey "reasoning_content" (reasonedAnswer "hi" "a") =
      eraseMessageKey "reasoning_content" (reasonedAnswer "hi" "b") ∧
    eraseMessageKey "content" (reasonedAnswer "hi" "a") =
      eraseMessageKey "content" (reasonedAnswer "yo" "a") ∧
    ∃ v₁ v₂ v₃,
      normalizeResponse ⟨fun _ => ""⟩ (reasonedAnswer "hi" "a") (.str "openai-compatible")
        (.str "t") 5 = .ok v₁ ∧
      normalizeResponse ⟨fun _ => ""⟩ (reasonedAnswer "hi" "b") (.str "openai-compatible")
        (.str "t") 5 = .ok v₂ ∧
      normalizeResponse ⟨fun _ => ""⟩ (reasonedAnswer "yo" "a") (.str "openai-compatible")
        (.str "t") 5 = .ok v₃ ∧
      field v₁ "thinking" ≠ field v₂ "thinking" ∧ field v₁ "content" = field v₂ "content" ∧
      field v₁ "content" ≠ field v₃ "content" ∧ field v₁ "thinking" = field v₃ "thinking" :=
  let hn := content_and_thinking_never_interfere ⟨fun _ => ""⟩ (.str "openai-compatible")
    (.str "t") 5
  ⟨rfl, rfl, reasonedResult "hi" "a", reasonedResult "hi" "b", reasonedResult "yo" "a", rfl, rfl,
    rfl, by simp [field, reasonedResult, lookup_cons_ite],
    hn.1 (reasonedAnswer "hi" "a") (reasonedAnswer "hi" "b") _ _ rfl rfl rfl "content" (by decide),
    by simp [field, reasonedResult, lookup_cons_ite],
    hn.2 (reasonedAnswer "hi" "a") (reasonedAnswer "yo" "a") _ _ rfl rfl rfl⟩

end Normalize
end Cheval
