import Cheval.Config.Merge
import Cheval.Config.Interpolate

/-!
# Layered configs: merging commutes with redaction and interpolation

A config is built from layers with `deep_merge`, its secrets are resolved with
`interpolate_config`, and it is shown with `redact_config`. Both walks treat a dict as a dict
and keep every other value a non-dict, and neither changes a key, so both commute with the
merge:

* `redact_config_commutes_with_deep_merge`: redacting the merged config gives the merge of the
  redacted layers, for any two dicts;
* `interpolate_config_commutes_with_deep_merge`: where both layers interpolate, the merged
  config interpolates to the merge of the interpolated layers.

So a layer's redaction, or its resolved secrets, are what the merged config shows at the keys
the layer wins. The proofs go item by item through `mergeItem_eq`: the walk commutes with
`setItem`, and with the value a key is merged to, by the same law one dict further down.
-/

set_option autoImplicit false

namespace Cheval
namespace Config

open Python

/-! ## 1. Redaction -/

theorem exists_dict_of_isDict : ∀ {v : PyVal}, v.isDict = true → ∃ r, v = .dict r
  | .dict r, _ => ⟨r, rfl⟩
  | .none, h | .bool _, h | .int _, h | .float _, h | .str _, h | .list _, h => nomatch h

theorem redactConfig_setItem (l : List (String × PyVal)) (key : String) (v : PyVal) :
    redactConfig (setItem l key v) = setItem (redactConfig l) key (redactValue key v) := by
  induction l with
  | nil => rfl
  | cons kv rest ih =>
    obtain ⟨k, w⟩ := kv
    by_cases h : k = key
    · subst h; simp [setItem, redactConfig]
    · simp [setItem, redactConfig, h, ih]

/-- Redaction keeps a dict a dict and every other value a non-dict. -/
@[simp] theorem isDict_redactValue (key : String) (v : PyVal) :
    (redactValue key v).isDict = v.isDict := by
  cases v <;> simp only [redactValue, PyVal.isDict] <;> split_ifs <;> rfl

/-- One key of the law: the value a key is merged to, redacted, is the redacted overlay value
merged into the redacted base value, given the law for the dicts the overlay value holds. -/
theorem redactValue_mergedValue (key : String) (old : Option PyVal) (value : PyVal)
    (ih : ∀ r v, value = .dict v →
      redactConfig (deepMerge r v) = deepMerge (redactConfig r) (redactConfig v)) :
    redactValue key (mergedValue old value) =
      mergedValue (old.map (redactValue key)) (redactValue key value) := by
  cases hv : value.isDict with
  | false =>
    rw [mergedValue_of_not_dict _ hv, mergedValue_of_not_dict _ (by simpa using hv)]
  | true =>
    obtain ⟨v, rfl⟩ := exists_dict_of_isDict hv
    by_cases hold : ∃ r, old = some (.dict r)
    · obtain ⟨r, rfl⟩ := hold
      simp only [mergedValue, redactValue, Option.map_some', ih r v rfl]
    · have hold' : ∀ r, old.map (redactValue key) ≠ some (.dict r) := by
        rintro r h
        obtain ⟨w, hw, hwr⟩ := Option.map_eq_some'.1 h
        have hd := congrArg PyVal.isDict hwr
        rw [isDict_redactValue] at hd
        obtain ⟨r', rfl⟩ := exists_dict_of_isDict hd
        exact hold ⟨r', hw⟩
      rw [mergedValue_dict_of_not (fun r h => hold ⟨r, h⟩)]
      show PyVal.dict (redactConfig v) = mergedValue _ (.dict (redactConfig v))
      rw [mergedValue_dict_of_not hold']

/-- **Redaction commutes with the merge**, for any two dicts. -/
theorem redact_config_commutes_with_deep_merge :
    ∀ (base overlay : List (String × PyVal)),
      redactConfig (deepMerge base overlay) = deepMerge (redactConfig base) (redactConfig overlay)
  | _, [] => rfl
  | base, (key, value) :: rest => by
    rw [deepMerge, redact_config_commutes_with_deep_merge _ rest, redactConfig, deepMerge,
      mergeItem_eq, mergeItem_eq, redactConfig_setItem, lookup_redactConfig,
      redactValue_mergedValue key _ value fun r v _ => redact_config_commutes_with_deep_merge r v]
termination_by _ overlay => sizeOf overlay
decreasing_by
  all_goals simp_wf
  all_goals subst_vars; simp only [PyVal.dict.sizeOf_spec]; omega

/-! ## 2. Interpolation -/

section Interpolation

variable {src : Sources}

/-- What a successful walk does to one value: the walk of it. -/
def Walked (src : Sources) (w w' : PyVal) : Prop := interpolateEntry src w = .ok w'

theorem interpolateConfig_cons {key : String} {value : PyVal} {rest r : List (String × PyVal)}
    (h : interpolateConfig src ((key, value) :: rest) = .ok r) :
    ∃ v' rest', interpolateEntry src value = .ok v' ∧ interpolateConfig src rest = .ok rest' ∧
      r = (key, v') :: rest' := by
  obtain ⟨v', hv, rest', hr, h⟩ := by simpa only [interpolateConfig, bind_eq_ok] using h
  cases h
  exact ⟨v', rest', hv, hr, rfl⟩

theorem interpolateConfig_setItem {key : String} {v v' : PyVal} :
    ∀ {l l' : List (String × PyVal)}, interpolateConfig src l = .ok l' →
      interpolateEntry src v = .ok v' →
      interpolateConfig src (setItem l key v) = .ok (setItem l' key v')
  | [], l', hl, hv => by
    cases hl
    simp [setItem, interpolateConfig, hv, bind, Except.bind, pure, Except.pure]
  | (k, w) :: rest, l', hl, hv => by
    obtain ⟨w', rest', hw, hr, rfl⟩ := interpolateConfig_cons hl
    by_cases h : k = key
    · subst h
      simp [setItem, interpolateConfig, hv, hr, bind, Except.bind, pure, Except.pure]
    · simp [setItem, h, interpolateConfig, hw, interpolateConfig_setItem hr hv, bind,
        Except.bind, pure, Except.pure]

/-- The walked dict binds each key to the walk of the value it had. -/
theorem lookup_interpolateConfig :
    ∀ {l l' : List (String × PyVal)}, interpolateConfig src l = .ok l' → ∀ k,
      Option.Rel (Walked src) (l.lookup k) (l'.lookup k)
  | [], l', hl, k => by cases hl; exact .none
  | (key, w) :: rest, l', hl, k => by
    obtain ⟨w', rest', hw, hr, rfl⟩ := interpolateConfig_cons hl
    rw [lookup_cons_ite, lookup_cons_ite]
    split_ifs
    · exact .some hw
    · exact lookup_interpolateConfig hr k

theorem map_eq_ok {α β : Type} {f : α → β} {x : Except PyErr α} {r : β}
    (h : f <$> x = .ok r) : ∃ a, x = .ok a ∧ f a = r := by
  cases x with
  | error e => cases h
  | ok a => exact ⟨a, rfl, by cases h; rfl⟩

/-- The walk keeps a dict a dict and every other value a non-dict. -/
theorem Walked.isDict {w w' : PyVal} (h : Walked src w w') : w'.isDict = w.isDict := by
  cases w <;> simp only [Walked, interpolateEntry] at h
  case str s =>
    split_ifs at h
    · obtain ⟨s', -, rfl⟩ := map_eq_ok h
      rfl
    · cases h; rfl
  case dict items =>
    obtain ⟨r, -, rfl⟩ := map_eq_ok h
    rfl
  case list xs =>
    obtain ⟨r, -, rfl⟩ := map_eq_ok h
    rfl
  all_goals cases h; rfl

theorem Walked.dict {r : List (String × PyVal)} {w' : PyVal} (h : Walked src (.dict r) w') :
    ∃ r', w' = .dict r' ∧ interpolateConfig src r = .ok r' := by
  obtain ⟨r', hr, rfl⟩ := map_eq_ok h
  exact ⟨r', rfl, hr⟩

/-- One key of the law: the walk of the value a key is merged to is the walked overlay value
merged into the walked base value, given the law for the dicts the overlay value holds. -/
theorem walked_mergedValue {old old' : Option PyVal} {value value' : PyVal}
    (hold : Option.Rel (Walked src) old old') (hv : Walked src value value')
    (ih : ∀ r r' v v', value = .dict v → interpolateConfig src r = .ok r' →
      interpolateConfig src v = .ok v' →
      interpolateConfig src (deepMerge r v) = .ok (deepMerge r' v')) :
    Walked src (mergedValue old value) (mergedValue old' value') := by
  cases hd : value.isDict with
  | false =>
    rw [mergedValue_of_not_dict _ hd, mergedValue_of_not_dict _ (hv.isDict.trans hd)]
    exact hv
  | true =>
    obtain ⟨v, rfl⟩ := exists_dict_of_isDict hd
    obtain ⟨v', rfl, hv'⟩ := hv.dict
    by_cases hr : ∃ r, old = some (.dict r)
    · obtain ⟨r, rfl⟩ := hr
      cases hold with
      | some hw =>
        obtain ⟨r', rfl, hr'⟩ := hw.dict
        show PyVal.dict <$> interpolateConfig src (deepMerge r v) = .ok (.dict (deepMerge r' v'))
        rw [ih r r' v v' rfl hr' hv']
        rfl
    · have hr' : ∀ r', old' ≠ some (.dict r') := by
        rintro r' rfl
        cases hold with
        | @some a _ hw =>
          obtain ⟨r, rfl⟩ := exists_dict_of_isDict (hw.isDict.symm.trans rfl)
          exact hr ⟨r, rfl⟩
      rw [mergedValue_dict_of_not (fun r h => hr ⟨r, h⟩), mergedValue_dict_of_not hr']
      exact hv

end Interpolation

/-- **Interpolation commutes with the merge**: where both layers interpolate, the merged config
interpolates, to the merge of the interpolated layers. -/
theorem interpolate_config_commutes_with_deep_merge (src : Sources) :
    ∀ (base overlay base' overlay' : List (String × PyVal)),
      interpolateConfig src base = .ok base' → interpolateConfig src overlay = .ok overlay' →
      interpolateConfig src (deepMerge base overlay) = .ok (deepMerge base' overlay')
  | _, [], _, _, hb, ho => by cases ho; exact hb
  | base, (key, value) :: rest, base', _, hb, ho => by
    obtain ⟨v', rest', hv, hr, rfl⟩ := interpolateConfig_cons ho
    rw [deepMerge, deepMerge]
    refine interpolate_config_commutes_with_deep_merge src _ rest _ rest' ?_ hr
    rw [mergeItem_eq, mergeItem_eq]
    exact interpolateConfig_setItem hb (walked_mergedValue (lookup_interpolateConfig hb key) hv
      fun r r' v v'' _ hr hv => interpolate_config_commutes_with_deep_merge src r v r' v'' hr hv)
termination_by _ overlay => sizeOf overlay
decreasing_by
  all_goals simp_wf
  all_goals subst_vars; simp only [PyVal.dict.sizeOf_spec]; omega

/-- A base layer whose provider key is a token, and an overlay that changes its timeout. -/
def baseLayer : List (String × PyVal) :=
  [("providers", .dict [("openai", .dict [("apiKey", .str "\x7benv:LOA_KEY\x7d"),
    ("timeout", .int 30)])])]

def overlayLayer : List (String × PyVal) :=
  [("providers", .dict [("openai", .dict [("timeout", .int 60)])])]

/-- The base layer interpolated, with `LOA_KEY` set to `sk`. -/
def resolvedBase : List (String × PyVal) :=
  [("providers", .dict [("openai", .dict [("apiKey", .str "sk"), ("timeout", .int 30)])])]

theorem layered_key_resolves :
    interpolateConfig loaSources baseLayer = .ok resolvedBase ∧
      interpolateConfig loaSources overlayLayer = .ok overlayLayer ∧
      interpolateConfig loaSources (deepMerge baseLayer overlayLayer) =
        .ok (deepMerge resolvedBase overlayLayer) :=
  ⟨rfl, rfl, interpolate_config_commutes_with_deep_merge loaSources _ _ _ _ rfl rfl⟩

end Config
end Cheval
