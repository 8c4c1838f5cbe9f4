import Cheval.Sidecar.Invoke

/-!
# `provider_registry.py`

The registry describes each supported provider type (`ProviderDefaults`): the path of its chat
endpoint and how it authenticates. `validate_provider` lists what is wrong with a provider's
configuration, `resolve_auth_headers` and `resolve_chat_url` say how the registry would call
it, and `estimate_message_tokens` guesses the size of a conversation.

`validateProvider_eq_nil_iff` says which providers validate: an object with a truthy `name`,
`base_url` and `api_key`, and a `type` (default `"openai"`) that is one of the registered
strings.

Neither entry point reads the registry. Both send every provider `Authorization: Bearer …` at
`/chat/completions`, whatever path and headers the registry gives its type.

`f"{v}"` of a JSON value is the parameter `pyStr`, and `tiktoken`'s count, where it imports,
the parameter `tiktoken`. `ProviderDefaults`' timeouts and `health_path` are read by none of
the module's functions and are left out.
-/

set_option autoImplicit false

namespace Cheval
namespace ProviderRegistry

open Python

/-! ## 1. The registry -/

/-- `ProviderDefaults`: how a provider type is called. -/
structure ProviderDefaults where
  chatPath : String := "/chat/completions"
  authHeader : String := "Authorization"
  authPrefix : String := "Bearer"
  extraHeaders : List (String × String) := []

/-- The defaults of `"anthropic"`. -/
def anthropicDefaults : ProviderDefaults :=
  { chatPath := "/messages", authHeader := "x-api-key", authPrefix := "",
    extraHeaders := [("anthropic-version", "2023-06-01")] }

/-- `_PROVIDER_DEFAULTS`. -/
def providerDefaults : List (String × ProviderDefaults) :=
  [("openai", {}), ("openai_compat", {}), ("anthropic", anthropicDefaults)]

/-- `get_supported_types()`. -/
def getSupportedTypes : List String := providerDefaults.map (·.1)

/-- `provider_type in _PROVIDER_DEFAULTS`: the key must hash, and only a `str` equals a `str`
key. -/
def isSupportedType (providerType : PyVal) : Except PyErr Bool :=
  if !providerType.hashable then .error .typeError
  else .ok (getSupportedTypes.any providerType.eqStr)

/-- `get_defaults(provider_type)`: `_PROVIDER_DEFAULTS.get(provider_type)`. -/
def getDefaults (providerType : PyVal) : Except PyErr (Option ProviderDefaults) :=
  if !providerType.hashable then .error .typeError
  else .ok ((providerDefaults.find? fun e => providerType.eqStr e.1).map (·.2))

/-! ## 2. `validate_provider` -/

/-- One of the three presence checks of `validate_provider`: `provider.get(key)` is falsy
adds `"Provider '{key}' is required"`. -/
def requireField (provider : PyVal) (key : String) (errors : List String) :
    Except PyErr (List String) := do
  let value ← provider.get key
  return if value.truthy then errors else errors ++ ["Provider '" ++ key ++ "' is required"]

/-- `str()` of a list of strings that hold no quote or backslash. -/
def listText (xs : List String) : String :=
  "[" ++ ", ".intercalate (xs.map fun x => "'" ++ x ++ "'") ++ "]"

/-- The error for a type the registry does not hold. -/
def unknownTypeError (pyStr : PyVal → String) (ptype : PyVal) : String :=
  "Unknown provider type '" ++ pyStr ptype ++ "'. Supported: " ++ listText getSupportedTypes

/-- `validate_provider`: the errors, in the order of its checks. -/
def validateProvider (pyStr : PyVal → String) (provider : PyVal) : Except PyErr (List String) := do
  let errors ← requireField provider "name" []
  let errors ← requireField provider "base_url" errors
  let errors ← requireField provider "api_key" errors
  let ptype ← provider.getD "type" (.str "openai")
  if !(← isSupportedType ptype) then return errors ++ [unknownTypeError pyStr ptype]
  return errors

theorem requireField_dict (items : List (String × PyVal)) (key : String) (errors : List String) :
    requireField (.dict items) key errors =
      .ok (if ((items.lookup key).getD .none).truthy then errors
        else errors ++ ["Provider '" ++ key ++ "' is required"]) := rfl

/-- The registered types are exactly three strings. -/
theorem isSupportedType_eq_ok_true_iff (v : PyVal) :
    isSupportedType v = .ok true ↔ ∃ t ∈ getSupportedTypes, v = .str t := by
  cases v with
  | str s => simp [isSupportedType, PyVal.hashable, PyVal.eqStr, List.any_eq_true]
  | list | dict => simp [isSupportedType, PyVal.hashable]
  | _ => simp [isSupportedType, PyVal.hashable, PyVal.eqStr]

/-- **Which providers validate.** `validate_provider` returns no error exactly for an object
whose `name`, `base_url` and `api_key` are truthy and whose `type`, `"openai"` when absent, is
a registered string. -/
theorem validateProvider_eq_nil_iff (pyStr : PyVal → String) (provider : PyVal) :
    validateProvider pyStr provider = .ok [] ↔
      ∃ items, provider = .dict items ∧ ((items.lookup "name").getD .none).truthy ∧
        ((items.lookup "base_url").getD .none).truthy ∧
        ((items.lookup "api_key").getD .none).truthy ∧
        ∃ t ∈ getSupportedTypes, (items.lookup "type").getD (.str "openai") = .str t := by
  cases provider with
  | dict items =>
    simp only [PyVal.dict.injEq, exists_eq_left', ← isSupportedType_eq_ok_true_iff]
    simp only [validateProvider, requireField_dict, PyVal.getD, bind, Except.bind, pure,
      Except.pure]
    cases isSupportedType ((items.lookup "type").getD (.str "openai")) with
    | error e => simp
    | ok b => cases b <;> split_ifs <;> simp_all
  | _ => simp [validateProvider, requireField, PyVal.get, PyVal.getD, bind, Except.bind]

example :
    validateProvider (fun _ => "x") (.dict [("type", .str "x")]) =
      .ok ["Provider 'name' is required", "Provider 'base_url' is required",
        "Provider 'api_key' is required",
        "Unknown provider type 'x'. Supported: ['openai', 'openai_compat', 'anthropic']"] := rfl

/-! ## 3. How the registry calls a provider -/

/-- `resolve_auth_headers`: `Content-Type`, the type's auth header with its prefix, and the
type's extra headers; an unknown type is called as the default, `Bearer`. -/
def resolveAuthHeaders (pyStr : PyVal → String) (provider : PyVal) :
    Except PyErr (List (String × PyVal)) := do
  let ptype ← provider.getD "type" (.str "openai")
  let apiKey ← provider.getD "api_key" (.str "")
  let defaults := (← getDefaults ptype).getD {}
  let headers := [("Content-Type", PyVal.str "application/json")]
  let headers :=
    if defaults.authPrefix ≠ "" then
      setItem headers defaults.authHeader (.str (defaults.authPrefix ++ " " ++ pyStr apiKey))
    else setItem headers defaults.authHeader apiKey
  return defaults.extraHeaders.foldl (fun h e => setItem h e.1 (.str e.2)) headers

/-- `resolve_chat_url`: the type's chat path. `base_url` is stripped, which raises on a
`base_url` that is no `str`, and then not used. -/
def resolveChatUrl (provider : PyVal) : Except PyErr String := do
  let ptype ← provider.getD "type" (.str "openai")
  let _baseUrl ← Sidecar.rstripSlash (← provider.getD "base_url" (.str ""))
  let defaults := (← getDefaults ptype).getD {}
  return defaults.chatPath

/-! ## 4. Token estimates -/

/-- `estimate_tokens`: `tiktoken`'s count where it imports, and otherwise
`int(len(text) / 3.5)`. `3.5` is exact in binary and `2·len/7` is an integer or at least `1/7`
from one, so the float division rounds to the same integer part as the exact one for every
length below `2 ^ 50`. -/
def estimateTokens (tiktoken : Option (String → Nat)) (text : String) : Nat :=
  match tiktoken with
  | some count => count text
  | none => 2 * text.length / 7

/-- `text += block["text"]` for a content block that is a dict holding `text`; only a `str`
can be added to a `str`. -/
def addBlockText (text : String) (block : PyVal) : Except PyErr String :=
  match block with
  | .dict items =>
    match items.lookup "text" with
    | some (.str s) => .ok (text ++ s)
    | some _ => .error .typeError
    | none => .ok text
  | _ => .ok text

/-- The body of `estimate_message_tokens`' loop: a string content is added whole, and a list
block by block. -/
def addMessageText (text : String) (msg : PyVal) : Except PyErr String := do
  match ← msg.getD "content" (.str "") with
  | .str s => return text ++ s
  | .list blocks => blocks.foldlM addBlockText text
  | _ => return text

/-- `estimate_message_tokens`. -/
def estimateMessageTokens (tiktoken : Option (String → Nat)) (messages : List PyVal) :
    Except PyErr Nat := do
  let text ← messages.foldlM addMessageText ""
  return estimateTokens tiktoken text

/-- A step of either loop only adds to the text. -/
theorem addBlockText_extends {text t : String} {block : PyVal}
    (h : addBlockText text block = .ok t) : ∃ s, t = text ++ s := by
  unfold addBlockText at h
  split at h
  · split at h
    · cases h; exact ⟨_, rfl⟩
    · cases h
    · cases h; exact ⟨"", (String.append_empty _).symm⟩
  · cases h; exact ⟨"", (String.append_empty _).symm⟩

/-- A loop whose every step only adds to the text only adds to it. -/
theorem foldlM_extends {f : String → PyVal → Except PyErr String}
    (hf : ∀ {text t : String} {x : PyVal}, f text x = .ok t → ∃ s, t = text ++ s) :
    ∀ (xs : List PyVal) {text t : String}, xs.foldlM f text = .ok t → ∃ s, t = text ++ s
  | [], _, _, h => by cases h; exact ⟨"", (String.append_empty _).symm⟩
  | x :: xs, text, t, h => by
    obtain ⟨t₁, h₁, h₂⟩ := bind_eq_ok.1 h
    obtain ⟨s₁, rfl⟩ := hf h₁
    obtain ⟨s₂, rfl⟩ := foldlM_extends hf xs h₂
    exact ⟨s₁ ++ s₂, String.append_assoc _ _ _⟩

theorem addMessageText_extends {text t : String} {msg : PyVal}
    (h : addMessageText text msg = .ok t) : ∃ s, t = text ++ s := by
  obtain ⟨content, -, h⟩ := bind_eq_ok.1 h
  split at h
  · cases h; exact ⟨_, rfl⟩
  · exact foldlM_extends addBlockText_extends _ h
  · cases h; exact ⟨"", (String.append_empty _).symm⟩

/-- **The estimate grows with the conversation.** Without `tiktoken`, a conversation's estimate
is at least that of each of its prefixes, where both return. -/
theorem estimateMessageTokens_mono (messages more : List PyVal) {n n' : Nat}
    (h : estimateMessageTokens none messages = .ok n)
    (h' : estimateMessageTokens none (messages ++ more) = .ok n') : n ≤ n' := by
  obtain ⟨text, ht, hn⟩ := bind_eq_ok.1 h
  obtain ⟨text', ht', hn'⟩ := bind_eq_ok.1 h'
  cases hn
  cases hn'
  rw [List.foldlM_append, ht] at ht'
  obtain ⟨s, rfl⟩ := foldlM_extends addMessageText_extends more ht'
  simp only [estimateTokens, String.length_append]
  exact Nat.div_le_div_right (by omega)

/-- A message with a string content. -/
def helloMessage : PyVal := .dict [("content", .str "hello there")]

/-- A message whose content is one text block. -/
def blockMessage : PyVal := .dict [("content", .list [.dict [("text", .str "abcdefg")]])]

/-- Adding the block message takes the estimate from 3 to 5. -/
theorem block_message_raises_estimate :
    estimateMessageTokens none [helloMessage] = .ok 3 ∧
      estimateMessageTokens none ([helloMessage] ++ [blockMessage]) = .ok 5 ∧ 3 ≤ 5 :=
  ⟨rfl, rfl, estimateMessageTokens_mono [helloMessage] [blockMessage] rfl rfl⟩

end ProviderRegistry
end Cheval
