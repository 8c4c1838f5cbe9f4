import Cheval.Config.Patterns

/-!
# `redact_config`

`redact_config` copies a config for logging. It descends into every dict value, replaces a
string holding an interpolation token by the annotation `***REDACTED*** (from env:X, …)`,
replaces the value of a sensitive key by `***REDACTED***`, and keeps everything else.

The dict test comes first, so a sensitive key whose value is a dict is not redacted: its
items are redacted by their own keys. And a list is not a dict, so it is kept whole, or
replaced whole under a sensitive key. `redactConfig_at_keys` says what this amounts to: along
every path of dict keys, the value is redacted by the last key of the path alone. Secrets
under a sensitive key one dict further down, or inside a list, survive
(`redact_config_keeps_nested_secrets`).
-/

set_option autoImplicit false

namespace Cheval
namespace Config

open Python

/-! ## 1. The function -/

/-- `REDACTED`. -/
def redacted : String := "***REDACTED***"

/-- `f"{REDACTED} (from {annotations})"`, with the tokens of `value` joined by `", "`. -/
def redactedFrom (value : String) : String :=
  redacted ++ " (from " ++ ", ".intercalate ((findall value).map fun m => m.1 ++ ":" ++ m.2) ++
    ")"

mutual

/-- `redact_config`, over the items of a dict in order. -/
def redactConfig : List (String × PyVal) → List (String × PyVal)
  | [] => []
  | (key, value) :: rest => (key, redactValue key value) :: redactConfig rest

/-- The body of `redact_config`'s loop: what `result[key]` becomes. -/
def redactValue (key : String) : PyVal → PyVal
  | .dict items => .dict (redactConfig items)
  | .str s =>
    if search s then .str (redactedFrom s) else if sensitive key then .str redacted else .str s
  | v => if sensitive key then .str redacted else v

end

/-! ## 2. Paths -/

/-- One step of a path: a dict key or a list index. -/
inductive Step where
  | key (k : String)
  | index (i : Nat)

/-- The value at a path, where the path exists. -/
def valueAt : PyVal → List Step → Option PyVal
  | v, [] => some v
  | .dict items, .key k :: p => (items.lookup k).bind (valueAt · p)
  | .list xs, .index i :: p => xs[i]?.bind (valueAt · p)
  | _, _ :: _ => none

theorem lookup_redactConfig (items : List (String × PyVal)) (k : String) :
    (redactConfig items).lookup k = (items.lookup k).map (redactValue k) := by
  induction items with
  | nil => rfl
  | cons kv rest ih =>
    obtain ⟨key, value⟩ := kv
    by_cases h : k = key
    · subst h; simp [redactConfig]
    · have hne : (k == key) = false := by simpa using h
      simp [redactConfig, List.lookup_cons, hne, ih]

/-- **Redaction along dict keys**: at every path of dict keys, the redacted config holds the
original value redacted by the last key of the path, whatever the keys before it. -/
theorem redactConfig_at_keys :
    ∀ (config : List (String × PyVal)) (ks : List String) (k : String) (v : PyVal),
      valueAt (.dict config) ((ks ++ [k]).map .key) = some v →
      valueAt (.dict (redactConfig config)) ((ks ++ [k]).map .key) = some (redactValue k v)
  | config, [], k, v, h => by
    simp only [List.nil_append, List.map_cons, List.map_nil, valueAt, Option.bind_eq_some,
      lookup_redactConfig, Option.map_eq_some'] at h ⊢
    obtain ⟨w, hw, hv⟩ := h
    cases hv
    exact ⟨_, ⟨_, hw, rfl⟩, rfl⟩
  | config, k' :: ks, k, v, h => by
    simp only [List.cons_append, List.map_cons, valueAt, Option.bind_eq_some,
      lookup_redactConfig, Option.map_eq_some'] at h ⊢
    obtain ⟨w, hw, hv⟩ := h
    cases w with
    | dict inner =>
      exact ⟨_, ⟨_, hw, rfl⟩, redactConfig_at_keys inner ks k v hv⟩
    | _ => cases ks <;> simp [valueAt] at hv

/-- A provider's key one dict below a sensitive key: `api_key` holds a dict whose `value` is
the secret. -/
def nestedKeyConfig : List (String × PyVal) :=
  [("api_key", .dict [("value", .str "sk-live")])]

theorem nested_key_redacted_by_value :
    valueAt (.dict nestedKeyConfig) [.key "api_key", .key "value"] = some (.str "sk-live") ∧
      valueAt (.dict (redactConfig nestedKeyConfig)) [.key "api_key", .key "value"] =
        some (redactValue "value" (.str "sk-live")) :=
  ⟨rfl, redactConfig_at_keys nestedKeyConfig ["api_key"] "value" (.str "sk-live") rfl⟩

/-- **Secrets that survive `redact_config`**: under a sensitive key whose value is a dict, under
a sensitive key inside a list, and a token inside a list. -/
theorem redact_config_keeps_nested_secrets :
    valueAt (.dict (redactConfig nestedKeyConfig)) [.key "api_key", .key "value"] =
        some (.str "sk-live") ∧
      valueAt (.dict (redactConfig [("providers", .list [.dict [("api_key", .str "sk-live")]])]))
        [.key "providers", .index 0, .key "api_key"] = some (.str "sk-live") ∧
      valueAt (.dict (redactConfig [("fallbacks", .list [.str "\x7benv:OPENAI_API_KEY\x7d"])]))
        [.key "fallbacks", .index 0] = some (.str "\x7benv:OPENAI_API_KEY\x7d") :=
  ⟨rfl, rfl, rfl⟩

end Config
end Cheval
