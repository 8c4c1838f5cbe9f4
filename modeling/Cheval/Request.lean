import Cheval.Python.Value

/-!
# `build_openai_request` and `_convert_messages`

Both entry points turn the canonical request into the provider's body with
`build_openai_request`, after checking only the provider. What it reads with `request[...]`
and `msg[...]` must be there: the `model`, the `messages`, and each message's `role`. Every
other field is read with `.get` and copied when it is set, so on a dict it cannot raise.

`buildOpenaiRequest_ok_iff` says exactly which requests it builds a body for (`Buildable`): an
object with a `model`, iterable `messages` each of which is an object with a `role`, and
`options`, if present, an object. The optional fields form one family, `copyIf`, and each
caller passes its own test (`is not None` or truthiness) as the source writes it.

`convertMessages_map_dict` says what the loop makes of every list of messages with roles: one
message per input, in order, with the role, the content unless it is `None` (then nothing for
an assistant and `""` for every other role), and the three optional fields where they are true.
The `elif` that drops the content tests the role alone, so an assistant turn with neither
content nor tool calls comes out as its role alone
(`convert_messages_drops_bare_assistant_content`).
-/

set_option autoImplicit false

namespace Cheval
namespace Request

open Python

/-! ## 1. The functions -/

/-- `if test(src.get(key)): dst[key] = src[key]`, as the binding it adds to `dst`. -/
def copyIf (test : PyVal → Bool) (src : PyVal) (key : String) :
    Except PyErr (List (String × PyVal)) := do
  if test (← src.get key) then
    let v ← src.getItem key
    return [(key, v)]
  else return []

/-- `x is not None`. -/
def isNotNone (v : PyVal) : Bool := !v.isNone

/-- The body of `_convert_messages`'s loop for one message. -/
def convertMessage (msg : PyVal) : Except PyErr PyVal := do
  let role ← msg.getItem "role"
  let content ← do
    if isNotNone (← msg.get "content") then
      let c ← msg.getItem "content"
      pure [("content", c)]
    else if (← msg.getItem "role").eqStr "assistant" then pure []
    else pure [("content", .str "")]
  let toolCalls ← copyIf PyVal.truthy msg "tool_calls"
  let toolCallId ← copyIf PyVal.truthy msg "tool_call_id"
  let name ← copyIf PyVal.truthy msg "name"
  return .dict ([("role", role)] ++ content ++ toolCalls ++ toolCallId ++ name)

/-- `_convert_messages`, over what `for msg in messages` iterates. -/
def convertMessages (messages : List PyVal) : Except PyErr (List PyVal) :=
  messages.mapM convertMessage

/-- The second half of `build_openai_request`: the fields it copies from `options`, and the
`tools` with their `tool_choice`, in the order it sets them. -/
def optionalFields (request options : PyVal) : Except PyErr (List (String × PyVal)) := do
  let temperature ← copyIf isNotNone options "temperature"
  let topP ← copyIf isNotNone options "top_p"
  let maxTokens ← copyIf isNotNone options "max_tokens"
  let stop ← copyIf PyVal.truthy options "stop"
  let tools ← do
    if (← request.get "tools").truthy then
      let t ← request.getItem "tools"
      let toolChoice ← copyIf PyVal.truthy options "tool_choice"
      pure ([("tools", t)] ++ toolChoice)
    else pure []
  return temperature ++ topP ++ maxTokens ++ stop ++ tools

/-- `build_openai_request`. -/
def buildOpenaiRequest (request : PyVal) : Except PyErr PyVal := do
  let model ← request.getItem "model"
  let messages ← convertMessages (← (← request.getItem "messages").iter)
  let options ← request.getD "options" (.dict [])
  let optional ← optionalFields request options
  return .dict ([("model", model), ("messages", .list messages)] ++ optional)

/-! ## 2. When it builds a body -/

/-- A message the loop converts: an object with a `role`. -/
def HasRole : PyVal → Prop
  | .dict items => (items.lookup "role").isSome
  | _ => False

/-- The requests `build_openai_request` builds a body for. -/
def Buildable : PyVal → Prop
  | .dict items =>
    (items.lookup "model").isSome ∧
      (∃ messages msgs, items.lookup "messages" = some messages ∧ messages.iter = .ok msgs ∧
        ∀ m ∈ msgs, HasRole m) ∧
      ((items.lookup "options").getD (.dict [])).isDict
  | _ => False

/-- On a dict, a field copy whose test rejects `None` never raises. -/
theorem copyIf_dict_ok {test : PyVal → Bool} (hnone : test .none = false)
    (items : List (String × PyVal)) (key : String) : Ok (copyIf test (.dict items) key) := by
  cases hk : items.lookup key <;>
    simp [copyIf, PyVal.get, hk, hnone, bind, Except.bind, pure, Except.pure]
  split <;> simp

theorem copyIf_truthy_dict_ok (items : List (String × PyVal)) (key : String) :
    Ok (copyIf PyVal.truthy (.dict items) key) := copyIf_dict_ok rfl items key

theorem copyIf_isNotNone_dict_ok (items : List (String × PyVal)) (key : String) :
    Ok (copyIf isNotNone (.dict items) key) := copyIf_dict_ok rfl items key

/-- A message converts exactly when it is an object with a `role`. -/
theorem convertMessage_ok_iff (msg : PyVal) : Ok (convertMessage msg) ↔ HasRole msg := by
  cases msg with
  | dict items =>
    cases hr : items.lookup "role" with
    | none => simp [convertMessage, HasRole, hr, bind, Except.bind]
    | some role =>
      obtain ⟨tc, htc⟩ := copyIf_truthy_dict_ok items "tool_calls"
      obtain ⟨tid, htid⟩ := copyIf_truthy_dict_ok items "tool_call_id"
      obtain ⟨nm, hnm⟩ := copyIf_truthy_dict_ok items "name"
      simp only [convertMessage, HasRole, PyVal.getItem_dict, PyVal.get, PyVal.getD_dict, hr, htc,
        htid, hnm, bind, Except.bind, pure, Except.pure, Option.isSome_some, iff_true]
      cases items.lookup "content" <;> split_ifs <;> simp_all [isNotNone, PyVal.isNone]
  | _ => simp [convertMessage, HasRole, PyVal.getItem, bind, Except.bind]

/-- The loop converts every message exactly when every message has a `role`. -/
theorem convertMessages_ok_iff (messages : List PyVal) :
    Ok (convertMessages messages) ↔ ∀ m ∈ messages, HasRole m := by
  induction messages with
  | nil => exact iff_of_true ⟨[], rfl⟩ (by simp)
  | cons msg rest ih =>
    rw [convertMessages, List.mapM_cons, ok_bind, List.forall_mem_cons, ← convertMessage_ok_iff,
      ← ih]
    simp only [ok_bind_pure, convertMessages]
    exact exists_and_right

/-- On anything but a dict, a field copy raises `AttributeError`. -/
theorem copyIf_of_not_isDict (test : PyVal → Bool) {src : PyVal} (h : src.isDict = false)
    (key : String) : copyIf test src key = .error .attributeError := by
  cases src <;> simp_all [copyIf, PyVal.get, PyVal.getD, PyVal.isDict, bind, Except.bind]

/-- The optional fields are read without raising exactly from a dict of options (the request
being a dict). -/
theorem optionalFields_ok_iff (items : List (String × PyVal)) (options : PyVal) :
    Ok (optionalFields (.dict items) options) ↔ options.isDict := by
  cases options with
  | dict o =>
    obtain ⟨t, ht⟩ := copyIf_isNotNone_dict_ok o "temperature"
    obtain ⟨p, hp⟩ := copyIf_isNotNone_dict_ok o "top_p"
    obtain ⟨m, hm⟩ := copyIf_isNotNone_dict_ok o "max_tokens"
    obtain ⟨s, hs⟩ := copyIf_truthy_dict_ok o "stop"
    obtain ⟨c, hc⟩ := copyIf_truthy_dict_ok o "tool_choice"
    simp only [optionalFields, ht, hp, hm, hs, hc, PyVal.get, PyVal.getD_dict, PyVal.getItem_dict,
      bind, Except.bind, pure, Except.pure, PyVal.isDict, iff_true]
    cases items.lookup "tools" <;> simp only [Option.getD_none, Option.getD_some] <;> split <;>
      simp_all [PyVal.truthy]
  | _ => simp [optionalFields, copyIf_of_not_isDict, PyVal.isDict, bind, Except.bind]

/-- **What `build_openai_request` builds a body for is exactly `Buildable`.** -/
theorem buildOpenaiRequest_ok_iff (request : PyVal) :
    Ok (buildOpenaiRequest request) ↔ Buildable request := by
  cases request with
  | dict items =>
    simp only [buildOpenaiRequest, Buildable, PyVal.getItem_dict, PyVal.getD_dict, ok_bind]
    cases items.lookup "model" with
    | none => simp
    | some model =>
      cases items.lookup "messages" with
      | none => simp
      | some messages =>
        simp only [Except.ok.injEq, exists_eq_left', Option.isSome_some, true_and,
          Option.some.injEq]
        constructor
        · rintro ⟨msgs, hit, cs, hcs, z, hz, -⟩
          exact ⟨⟨_, msgs, rfl, hit, (convertMessages_ok_iff msgs).1 ⟨cs, hcs⟩⟩,
            (optionalFields_ok_iff _ _).1 ⟨z, hz⟩⟩
        · rintro ⟨⟨_, msgs, rfl, hit, hroles⟩, hopt⟩
          obtain ⟨cs, hcs⟩ := (convertMessages_ok_iff msgs).2 hroles
          obtain ⟨z, hz⟩ := (optionalFields_ok_iff _ _).2 hopt
          exact ⟨msgs, hit, cs, hcs, z, hz, _, rfl⟩
  | _ => simp [buildOpenaiRequest, Buildable, PyVal.getItem, bind, Except.bind]

/-! ## 3. What each message becomes -/

/-- What `copyIf` adds from a dict: the binding of `key` when the test passes on
`src.get(key)`. -/
def copied (test : PyVal → Bool) (items : List (String × PyVal)) (key : String) :
    List (String × PyVal) :=
  match items.lookup key with
  | some v => if test v then [(key, v)] else []
  | none => []

/-- The `content` of a converted message with role `role`: the message's own where it is not
`None`, nothing for an assistant, and `""` for every other role. -/
def convertedContent (role : PyVal) (items : List (String × PyVal)) : List (String × PyVal) :=
  let c := (items.lookup "content").getD .none
  if c.isNone then (if role.eqStr "assistant" then [] else [("content", .str "")])
  else [("content", c)]

theorem copyIf_dict {test : PyVal → Bool} (hnone : test .none = false)
    (items : List (String × PyVal)) (key : String) :
    copyIf test (.dict items) key = .ok (copied test items key) := by
  cases hk : items.lookup key <;>
    simp [copyIf, copied, PyVal.get, hk, hnone, bind, Except.bind, pure, Except.pure]
  split <;> rfl

/-- **One message, as `_convert_messages` converts it**: its role, its content by
`convertedContent`, and `tool_calls`, `tool_call_id` and `name` where they are true. -/
theorem convertMessage_dict {items : List (String × PyVal)} {role : PyVal}
    (hr : items.lookup "role" = some role) :
    convertMessage (.dict items) = .ok (.dict ([("role", role)] ++ convertedContent role items ++
      copied PyVal.truthy items "tool_calls" ++ copied PyVal.truthy items "tool_call_id" ++
      copied PyVal.truthy items "name")) := by
  simp only [convertMessage, convertedContent, PyVal.getItem_dict, PyVal.get, PyVal.getD_dict, hr,
    copyIf_dict (rfl : PyVal.truthy .none = false), bind, Except.bind, pure, Except.pure]
  cases role.eqStr "assistant" <;> cases items.lookup "content" with
  | none => simp [isNotNone, PyVal.isNone]
  | some c => cases c <;> simp [isNotNone, PyVal.isNone]

/-- The message `_convert_messages` makes of a message with a role. -/
def convertedItems (items : List (String × PyVal)) : List (String × PyVal) :=
  let role := (items.lookup "role").getD .none
  [("role", role)] ++ convertedContent role items ++ copied PyVal.truthy items "tool_calls" ++
    copied PyVal.truthy items "tool_call_id" ++ copied PyVal.truthy items "name"

/-- **The loop, message by message**: on every list of messages with roles it returns one
message per input, in order, each `convertedItems` of its input. -/
theorem convertMessages_map_dict (ms : List (List (String × PyVal)))
    (hroles : ∀ m ∈ ms, (m.lookup "role").isSome) :
    convertMessages (ms.map .dict) = .ok (ms.map fun m => .dict (convertedItems m)) := by
  induction ms with
  | nil => rfl
  | cons m rest ih =>
    obtain ⟨role, hr⟩ := Option.isSome_iff_exists.1 (hroles m (List.mem_cons_self _ _))
    simp only [List.map_cons, convertMessages, List.mapM_cons] at ih ⊢
    rw [convertMessage_dict hr, ih fun m' hm' => hroles m' (List.mem_cons_of_mem _ hm')]
    simp [convertedItems, hr, bind, Except.bind, pure, Except.pure]

theorem mem_keys_copied {test : PyVal → Bool} {items : List (String × PyVal)} {key k : String} :
    k ∈ (copied test items key).map Prod.fst ↔
      k = key ∧ ∃ v, items.lookup key = some v ∧ test v = true := by
  unfold copied
  cases items.lookup key with
  | none => simp
  | some v => by_cases hv : test v <;> simp [hv]

/-- **A bare assistant turn loses its content.** For every list of messages with roles, a
converted message has neither `content` nor `tool_calls` exactly when it converts an
assistant message whose `content` is absent or `None` and whose `tool_calls` is false. -/
theorem convert_messages_drops_bare_assistant_content (ms : List (List (String × PyVal)))
    (hroles : ∀ m ∈ ms, (m.lookup "role").isSome) :
    convertMessages (ms.map .dict) = .ok (ms.map fun m => .dict (convertedItems m)) ∧
      ∀ m ∈ ms, ("content" ∉ (convertedItems m).map Prod.fst ∧
        "tool_calls" ∉ (convertedItems m).map Prod.fst ↔
        ((m.lookup "role").getD .none).eqStr "assistant" = true ∧
          ((m.lookup "content").getD .none).isNone = true ∧
          ((m.lookup "tool_calls").getD .none).truthy = false) := by
  refine ⟨convertMessages_map_dict ms hroles, fun m _ => ?_⟩
  simp only [convertedItems, convertedContent, List.map_append, List.mem_append,
    mem_keys_copied]
  cases ht : m.lookup "tool_calls" <;> split_ifs <;> simp_all [PyVal.truthy]

/-- The message list of the failing input: one assistant turn with only its role. -/
theorem bare_assistant_converts_to_role :
    (∀ m ∈ [[("role", PyVal.str "assistant")]], (m.lookup "role").isSome) ∧
      convertMessages ([[("role", PyVal.str "assistant")]].map .dict) =
        .ok [.dict [("role", .str "assistant")]] :=
  ⟨by decide, (convert_messages_drops_bare_assistant_content _ (by decide)).1⟩

end Request
end Cheval
