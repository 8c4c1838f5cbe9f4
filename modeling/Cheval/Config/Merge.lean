import Mathlib.Data.List.Nodup
import Cheval.Config.Redact

/-!
# `deep_merge`

`deep_merge(base, overlay)` copies `base` and walks the items of `overlay` in order: where
both sides hold a dict under a key it merges them, and otherwise the overlay's value replaces
the base's in place, or is added last. Layered configs are merged with it, so two facts about
it matter.

* **The overlay wins on leaves** (`valueAt_deepMerge_of_not_dict`): along every path of dict
  keys where the overlay holds a value that is not a dict, the merge holds that value.
* **Associativity on compatible layers** (`deepMerge_assoc`): merging three layers gives the
  same dict, keys in the same order, whichever pair is merged first, unless some path holds a
  dict in the outer two layers and a non-dict in the middle one (`Compatible`). There the
  middle layer's leaf cuts the outer dicts apart when merged first, and they merge when it is
  merged last.

Both are read off two lemmas that say what a merge is key by key: its lookups
(`lookup_deepMerge`) and its key order (`keys_deepMerge`). Python's dicts hold each key once;
`KeysUnique` says so of a dict and of every dict nested in it, and `eq_of_keys_lookup` turns
equal keys and lookups into equal dicts.
-/

set_option autoImplicit false

namespace Cheval
namespace Config

open Python

/-! ## 1. The function -/

mutual

/-- `deep_merge(base, overlay)`, over the items of `overlay` in order. -/
def deepMerge (result : List (String × PyVal)) : List (String × PyVal) → List (String × PyVal)
  | [] => result
  | (key, value) :: rest => deepMerge (mergeItem result key value) rest

/-- The loop's body: `result[key]` becomes the merge of two dicts, or `value`. -/
def mergeItem (result : List (String × PyVal)) (key : String) :
    PyVal → List (String × PyVal)
  | .dict v =>
    match result.lookup key with
    | some (.dict r) => setItem result key (.dict (deepMerge r v))
    | _ => setItem result key (.dict v)
  | value => setItem result key value

end

/-- What `result[key]` becomes when `value` is merged into the binding `old`. -/
def mergedValue (old : Option PyVal) : PyVal → PyVal
  | .dict v =>
    match old with
    | some (.dict r) => .dict (deepMerge r v)
    | _ => .dict v
  | value => value

/-- The binding a merge gives a key: the overlay's, merged into the base's, or the base's. -/
def mergeValue (old : Option PyVal) : Option PyVal → Option PyVal
  | some value => some (mergedValue old value)
  | none => old

/-- Every dict holds each key once: the dict itself, and every dict it holds as a value. A
Python dict does; the item lists of this model need not. -/
inductive KeysUnique : List (String × PyVal) → Prop
  | mk {items : List (String × PyVal)} : (items.map Prod.fst).Nodup →
      (∀ k d, (k, PyVal.dict d) ∈ items → KeysUnique d) → KeysUnique items

theorem KeysUnique.nodup {items : List (String × PyVal)} (h : KeysUnique items) :
    (items.map Prod.fst).Nodup := by
  cases h; assumption

theorem mem_of_lookup_eq_some {l : List (String × PyVal)} {k : String} {v : PyVal}
    (h : l.lookup k = some v) : (k, v) ∈ l := by
  obtain ⟨l₁, l₂, rfl, -⟩ := List.lookup_eq_some_iff.1 h
  simp

theorem KeysUnique.sub {items d : List (String × PyVal)} {k : String} (h : KeysUnique items)
    (hk : items.lookup k = some (.dict d)) : KeysUnique d := by
  cases h with
  | mk _ hsub => exact hsub k d (mem_of_lookup_eq_some hk)

theorem lookup_eq_none_of_not_mem {l : List (String × PyVal)} {k : String}
    (h : k ∉ l.map Prod.fst) : l.lookup k = none :=
  List.lookup_eq_none_iff.2 fun p hp => bne_iff_ne.2 fun he => h (List.mem_map.2 ⟨p, hp, he.symm⟩)

/-! ## 2. Key by key -/

theorem lookup_setItem (l : List (String × PyVal)) (key k : String) (v : PyVal) :
    (setItem l key v).lookup k = if k = key then some v else l.lookup k := by
  induction l with
  | nil => simp [setItem, lookup_cons_ite]
  | cons kv rest ih =>
    obtain ⟨k', v'⟩ := kv
    by_cases h : k' = key
    · subst h
      by_cases hk : k = k' <;> simp [setItem, lookup_cons_ite, hk]
    · simp only [setItem, if_neg h, lookup_cons_ite, ih]
      by_cases hk : k = k' <;> simp_all

theorem keys_setItem (l : List (String × PyVal)) (key : String) (v : PyVal) :
    (setItem l key v).map Prod.fst =
      if key ∈ l.map Prod.fst then l.map Prod.fst else l.map Prod.fst ++ [key] := by
  induction l with
  | nil => simp [setItem]
  | cons kv rest ih =>
    obtain ⟨k', v'⟩ := kv
    by_cases h : k' = key
    · subst h; simp [setItem]
    · simp only [setItem, if_neg h, List.map_cons, ih, List.mem_cons, Ne.symm h, false_or]
      split_ifs <;> rfl

theorem mergeItem_eq (result : List (String × PyVal)) (key : String) (value : PyVal) :
    mergeItem result key value = setItem result key (mergedValue (result.lookup key) value) := by
  cases value with
  | dict v => simp only [mergeItem, mergedValue]; split <;> rfl
  | _ => rfl

/-- **A merge key by key**: with the overlay's keys distinct, each key is bound to the
overlay's value merged into the base's, or to the base's where the overlay has none. -/
theorem lookup_deepMerge (base overlay : List (String × PyVal))
    (hov : (overlay.map Prod.fst).Nodup) (k : String) :
    (deepMerge base overlay).lookup k = mergeValue (base.lookup k) (overlay.lookup k) := by
  induction overlay generalizing base with
  | nil => rfl
  | cons kv rest ih =>
    obtain ⟨key, value⟩ := kv
    rw [List.map_cons, List.nodup_cons] at hov
    rw [deepMerge, ih _ hov.2, mergeItem_eq, lookup_setItem, lookup_cons_ite]
    by_cases h : k = key
    · subst h
      simp [lookup_eq_none_of_not_mem hov.1, mergeValue]
    · simp [h]

/-- **The key order of a merge**: the base's keys, then the overlay's new keys in order. -/
theorem keys_deepMerge (base overlay : List (String × PyVal))
    (hov : (overlay.map Prod.fst).Nodup) :
    (deepMerge base overlay).map Prod.fst =
      base.map Prod.fst ++ (overlay.map Prod.fst).filter (· ∉ base.map Prod.fst) := by
  induction overlay generalizing base with
  | nil => simp [deepMerge]
  | cons kv rest ih =>
    obtain ⟨key, value⟩ := kv
    rw [List.map_cons, List.nodup_cons] at hov
    rw [deepMerge, ih _ hov.2, mergeItem_eq, keys_setItem, List.map_cons]
    by_cases hk : key ∈ base.map Prod.fst
    · rw [if_pos hk, List.filter_cons_of_neg (by simpa using hk)]
    · rw [if_neg hk, List.filter_cons_of_pos (by simpa using hk), List.append_assoc,
        List.singleton_append]
      congr 2
      refine List.filter_congr fun x hx => ?_
      simp only [List.mem_append, List.mem_singleton, not_or, decide_eq_decide]
      exact ⟨And.left, fun h => ⟨h, fun hx' => hov.1 (hx' ▸ hx)⟩⟩

theorem nodup_keys_deepMerge {base overlay : List (String × PyVal)}
    (hb : (base.map Prod.fst).Nodup) (hov : (overlay.map Prod.fst).Nodup) :
    ((deepMerge base overlay).map Prod.fst).Nodup := by
  rw [keys_deepMerge base overlay hov, List.nodup_append]
  exact ⟨hb, hov.filter _, fun x hx hy => by simp_all⟩

/-- Two dicts with their keys in the same order, once each, and the same lookups are equal. -/
theorem eq_of_keys_lookup :
    ∀ {l₁ l₂ : List (String × PyVal)}, (l₁.map Prod.fst).Nodup →
      l₁.map Prod.fst = l₂.map Prod.fst → (∀ k, l₁.lookup k = l₂.lookup k) → l₁ = l₂
  | [], [], _, _, _ => rfl
  | (k, v) :: r₁, (k', v') :: r₂, hnd, hkeys, hlook => by
    simp only [List.map_cons, List.cons.injEq] at hkeys
    rw [List.map_cons, List.nodup_cons] at hnd
    obtain ⟨rfl, hkeys⟩ := hkeys
    have hv : v = v' := by simpa using hlook k
    subst hv
    refine congrArg _ (eq_of_keys_lookup hnd.2 hkeys fun j => ?_)
    by_cases hj : j = k
    · subst hj
      rw [lookup_eq_none_of_not_mem hnd.1, lookup_eq_none_of_not_mem (hkeys ▸ hnd.1)]
    · simpa [lookup_cons_ite, hj] using hlook j

/-! ## 3. The overlay wins on leaves -/

/-- **The overlay wins**: along every path of dict keys where an overlay with unique keys holds
a value that is not a dict, the merge into any base holds that value. -/
theorem valueAt_deepMerge_of_not_dict :
    ∀ (base overlay : List (String × PyVal)), KeysUnique overlay → ∀ (p : List String)
      (v : PyVal), valueAt (.dict overlay) (p.map .key) = some v → v.isDict = false →
      valueAt (.dict (deepMerge base overlay)) (p.map .key) = some v
  | _, _, _, [], v, h, hv => by cases h; simp [PyVal.isDict] at hv
  | base, overlay, hov, k :: p, v, h, hv => by
    simp only [List.map_cons, valueAt, Option.bind_eq_some] at h ⊢
    obtain ⟨w, hw, hpath⟩ := h
    refine ⟨_, by rw [lookup_deepMerge base overlay hov.nodup, hw]; rfl, ?_⟩
    cases p with
    | nil =>
      simp only [List.map_nil, valueAt, Option.some.injEq] at hpath
      subst hpath
      cases w <;> simp_all [mergedValue, valueAt, PyVal.isDict]
    | cons k' p =>
      cases w with
      | dict wd =>
        simp only [mergedValue]
        split
        · exact valueAt_deepMerge_of_not_dict _ wd (hov.sub hw) (k' :: p) v hpath hv
        · exact hpath
      | _ => simp [valueAt] at hpath

/-! ## 4. Associativity on compatible layers -/

/-- Three layers are compatible when no path of dict keys holds a dict in the first and the
third and a value that is not a dict in the second. -/
def Compatible (a b c : List (String × PyVal)) : Prop :=
  ∀ p : List String, (∃ r, valueAt (.dict a) (p.map .key) = some (.dict r)) →
    (∃ t, valueAt (.dict c) (p.map .key) = some (.dict t)) →
    ∀ v, valueAt (.dict b) (p.map .key) = some v → v.isDict = true

theorem Compatible.sub {a b c r s t : List (String × PyVal)} {k : String}
    (h : Compatible a b c) (hr : a.lookup k = some (.dict r)) (hs : b.lookup k = some (.dict s))
    (ht : c.lookup k = some (.dict t)) : Compatible r s t := fun p ⟨r', hr'⟩ ⟨t', ht'⟩ v hv =>
  h (k :: p) ⟨r', by simp [valueAt, hr, hr']⟩ ⟨t', by simp [valueAt, ht, ht']⟩ v
    (by simp [valueAt, hs, hv])

theorem Compatible.head {a b c : List (String × PyVal)} (h : Compatible a b c) (k : String) :
    ∀ r t v, a.lookup k = some (.dict r) → c.lookup k = some (.dict t) → b.lookup k = some v →
      v.isDict = true := fun r t v hr ht hv =>
  h [k] ⟨r, by simp [valueAt, hr]⟩ ⟨t, by simp [valueAt, ht]⟩ v (by simp [valueAt, hv])

theorem mergedValue_dict_of_not {old : Option PyVal} (h : ∀ r, old ≠ some (.dict r))
    (v : List (String × PyVal)) : mergedValue old (.dict v) = .dict v := by
  simp [mergedValue, h]

theorem mergedValue_of_not_dict (old : Option PyVal) {v : PyVal} (h : v.isDict = false) :
    mergedValue old v = v := by
  cases v <;> simp_all [mergedValue, PyVal.isDict]

/-- One key of the three-layer law: the binding is the same either way, given the law one dict
further down. -/
theorem mergeValue_assoc {A B C : Option PyVal}
    (hcompat : ∀ r t v, A = some (.dict r) → C = some (.dict t) → B = some v → v.isDict = true)
    (ih : ∀ r s t, A = some (.dict r) → B = some (.dict s) → C = some (.dict t) →
      deepMerge (deepMerge r s) t = deepMerge r (deepMerge s t)) :
    mergeValue (mergeValue A B) C = mergeValue A (mergeValue B C) := by
  rcases C with _ | w
  · rfl
  simp only [mergeValue, Option.some.injEq]
  cases hw : w.isDict with
  | false => rw [mergedValue_of_not_dict _ hw, mergedValue_of_not_dict _ hw,
      mergedValue_of_not_dict _ hw]
  | true =>
    obtain ⟨t, rfl⟩ : ∃ t, w = .dict t := by cases w <;> simp_all [PyVal.isDict]
    rcases B with _ | u
    · rfl
    by_cases hA : ∃ r, A = some (.dict r)
    · obtain ⟨r, rfl⟩ := hA
      cases u with
      | dict s =>
        simp only [mergeValue, mergedValue]
        rw [ih r s t rfl rfl rfl]
      | _ => simp [PyVal.isDict] at hcompat
    · have hA' : ∀ r, A ≠ some (.dict r) := fun r h => hA ⟨r, h⟩
      cases u with
      | dict s =>
        have hst : mergedValue (some (.dict s)) (.dict t) = .dict (deepMerge s t) := rfl
        simp only [mergeValue, mergedValue_dict_of_not hA', hst]
      | _ => simp [mergeValue, mergedValue, mergedValue_dict_of_not hA']

theorem sizeOf_lt_of_lookup {a d : List (String × PyVal)} {k : String}
    (h : a.lookup k = some (.dict d)) : sizeOf d < sizeOf a := by
  have hmem := List.sizeOf_lt_of_mem (mem_of_lookup_eq_some h)
  simp only [Prod.mk.sizeOf_spec, PyVal.dict.sizeOf_spec] at hmem
  omega

/-- **`deep_merge` is associative on compatible layers**: for dicts with unique keys at every
depth and no path that holds a dict in the outer layers and a non-dict in the middle one,
merging the first two layers first or the last two first gives the same dict, with its keys in
the same order. -/
theorem deepMerge_assoc (a b c : List (String × PyVal)) (ha : KeysUnique a) (hb : KeysUnique b)
    (hc : KeysUnique c) (hcompat : Compatible a b c) :
    deepMerge (deepMerge a b) c = deepMerge a (deepMerge b c) := by
  have hbc := nodup_keys_deepMerge hb.nodup hc.nodup
  refine eq_of_keys_lookup (nodup_keys_deepMerge (nodup_keys_deepMerge ha.nodup hb.nodup)
    hc.nodup) ?_ fun k => ?_
  · rw [keys_deepMerge _ _ hc.nodup, keys_deepMerge _ _ hb.nodup, keys_deepMerge _ _ hbc,
      keys_deepMerge _ _ hc.nodup, List.filter_append, List.filter_filter, List.append_assoc]
    congr 2
    refine List.filter_congr fun x _ => ?_
    by_cases hxa : x ∈ a.map Prod.fst <;> by_cases hxb : x ∈ b.map Prod.fst <;> simp [hxa, hxb]
  · rw [lookup_deepMerge _ _ hc.nodup, lookup_deepMerge _ _ hb.nodup, lookup_deepMerge _ _ hbc,
      lookup_deepMerge _ _ hc.nodup]
    exact mergeValue_assoc (hcompat.head k) fun r s t hr hs ht =>
      deepMerge_assoc r s t (ha.sub hr) (hb.sub hs) (hc.sub ht) (hcompat.sub hr hs ht)
termination_by sizeOf a
decreasing_by exact sizeOf_lt_of_lookup hr

/-- Without compatibility the law fails: a leaf in the middle layer between two dicts. -/
example :
    deepMerge (deepMerge [("x", .dict [("y", .int 1)])] [("x", .int 5)])
        [("x", .dict [("z", .int 2)])] = [("x", .dict [("z", .int 2)])] ∧
      deepMerge [("x", .dict [("y", .int 1)])]
        (deepMerge [("x", .int 5)] [("x", .dict [("z", .int 2)])]) =
        [("x", .dict [("y", .int 1), ("z", .int 2)])] := ⟨rfl, rfl⟩

/-- **`deep_merge` on layered configs**: associative on compatible layers whose dicts hold each
key once, and the overlay's value wins at every path where it is not a dict. -/
theorem deep_merge_associative_overlay_wins :
    (∀ a b c, KeysUnique a → KeysUnique b → KeysUnique c → Compatible a b c →
      deepMerge (deepMerge a b) c = deepMerge a (deepMerge b c)) ∧
    (∀ base overlay, KeysUnique overlay → ∀ (p : List String) (v : PyVal),
      valueAt (.dict overlay) (p.map .key) = some v → v.isDict = false →
      valueAt (.dict (deepMerge base overlay)) (p.map .key) = some v) :=
  ⟨deepMerge_assoc, valueAt_deepMerge_of_not_dict⟩

/-- A base layer with one nested dict. -/
def lowerLayer : List (String × PyVal) := [("x", .dict [("y", .int 1)])]

/-- A middle layer that merges into the base's dict and adds a leaf `w`. -/
def middleLayer : List (String × PyVal) := [("x", .dict [("z", .int 2)]), ("w", .int 0)]

/-- An overlay with a dict where the middle layer has the leaf `w`; the base has no `w`. -/
def upperLayer : List (String × PyVal) := [("x", .dict [("y", .int 3)]), ("w", .dict [])]

theorem layers_compatible : Compatible lowerLayer middleLayer upperLayer := by
  rintro (_ | ⟨k, _ | ⟨k', p⟩⟩) ⟨r, hr⟩ _ v hv
  · simp only [List.map_nil, valueAt, Option.some.injEq] at hv
    subst hv; rfl
  · by_cases hk : k = "x"
    · subst hk
      simp [valueAt, middleLayer, lookup_cons_ite] at hv
      subst hv; rfl
    · simp [valueAt, lowerLayer, lookup_cons_ite, hk] at hr
  · by_cases hk : k = "x"
    · subst hk
      by_cases hk' : k' = "y"
      · subst hk'
        cases p <;> simp [valueAt, lowerLayer, lookup_cons_ite] at hr
      · simp [valueAt, lowerLayer, lookup_cons_ite, hk'] at hr
    · simp [valueAt, lowerLayer, lookup_cons_ite, hk] at hr

/-- The three layers regroup, and the middle layer's leaf `w` replaces the overlay's dict when
merged over it. -/
theorem layered_merges_regroup :
    Compatible lowerLayer middleLayer upperLayer ∧
    deepMerge (deepMerge lowerLayer middleLayer) upperLayer =
      deepMerge lowerLayer (deepMerge middleLayer upperLayer) ∧
    valueAt (.dict (deepMerge upperLayer middleLayer)) (["w"].map .key) = some (.int 0) := by
  have hu : ∀ l ∈ [lowerLayer, middleLayer, upperLayer], KeysUnique l := by
    rintro l hl
    refine .mk ?_ fun k d h => .mk ?_ fun k' d' h' => ?_ <;>
      simp only [List.mem_cons, List.not_mem_nil, or_false] at hl <;>
      rcases hl with rfl | rfl | rfl <;> simp only [lowerLayer, middleLayer, upperLayer] at * <;>
      aesop
  exact ⟨layers_compatible, deep_merge_associative_overlay_wins.1 _ _ _ (hu _ (by simp))
    (hu _ (by simp)) (hu _ (by simp)) layers_compatible,
    deep_merge_associative_overlay_wins.2 _ _ (hu _ (by simp)) ["w"] _ rfl rfl⟩

end Config
end Cheval
