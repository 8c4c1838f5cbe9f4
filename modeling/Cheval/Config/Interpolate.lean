import Cheval.Config.Redact

/-!
# `interpolate_value` and `interpolate_config`

`interpolate_value` rewrites every `{env:VAR}` and `{file:PATH}` token of a string with
`_INTERP_RE.sub(_replace, value)`: one scan from the left, each match replaced by what
`_replace` returns for its two groups, the text the replacement brings never scanned again.
`_replace` raises `ValueError` for a variable off the allowlist or unset, and hands a file
reference to `_check_file_allowed` and `read_text().strip()`.

`interpolate_config` walks a config: a string with a token is interpolated, a dict is walked,
and a list is rebuilt item by item, where a dict item is walked, a string item with a token is
interpolated, and every other item is kept as it is. A list inside a list is such an item, so
its strings keep their tokens (`interpolate_config_leaves_tokens`).

The file system is taken as a parameter: `Sources.readFile` is what the two file steps give
for a reference, a path or an error.
-/

set_option autoImplicit false

namespace Cheval
namespace Config

open Python

/-! ## 1. The functions -/

/-- What `interpolate_value` reads besides the text: `os.environ`, the `extra_env_patterns`
(each as its `search`), and the file steps for a `{file:…}` reference. -/
structure Sources where
  environ : List (String × String)
  extraEnvPatterns : List (String → Bool)
  readFile : String → Except PyErr String

/-- `_replace`, on the two groups of a match. -/
def replaceToken (src : Sources) (m : String × String) : Except PyErr String :=
  if m.1 = "env" then
    if !checkEnvAllowed m.2 src.extraEnvPatterns then .error .valueError
    else
      match src.environ.lookup m.2 with
      | some v => .ok v
      | none => .error .valueError
  else if m.1 = "file" then src.readFile m.2
  else .error .valueError

/-- `_INTERP_RE.sub(_replace, s)`, from `skip` characters before the next position it may
match at: each match replaced by `_replace`'s text, the scan resuming after the match. -/
def subTokens (src : Sources) : Nat → List Char → Except PyErr (List Char)
  | _, [] => .ok []
  | k + 1, _ :: cs => subTokens src k cs
  | 0, c :: cs =>
    match matchToken (c :: cs) with
    | some m => do
      let r ← replaceToken src m
      let rest ← subTokens src (tokenLength m - 1) cs
      return r.data ++ rest
    | none => do
      let rest ← subTokens src 0 cs
      return c :: rest

/-- `interpolate_value`. -/
def interpolateValue (src : Sources) (value : String) : Except PyErr String := do
  let cs ← subTokens src 0 value.data
  return ⟨cs⟩

mutual

/-- `interpolate_config`, over the items of a dict in order. -/
def interpolateConfig (src : Sources) :
    List (String × PyVal) → Except PyErr (List (String × PyVal))
  | [] => .ok []
  | (key, value) :: rest => do
    let v ← interpolateEntry src value
    let r ← interpolateConfig src rest
    return (key, v) :: r

/-- The body of `interpolate_config`'s loop: what `result[key]` becomes. -/
def interpolateEntry (src : Sources) : PyVal → Except PyErr PyVal
  | .str s => if search s then .str <$> interpolateValue src s else .ok (.str s)
  | .dict items => .dict <$> interpolateConfig src items
  | .list xs => .list <$> interpolateItems src xs
  | v => .ok v

/-- The list comprehension, item by item. -/
def interpolateItems (src : Sources) : List PyVal → Except PyErr (List PyVal)
  | [] => .ok []
  | item :: rest => do
    let i ← interpolateItem src item
    let r ← interpolateItems src rest
    return i :: r

/-- One item of the comprehension. -/
def interpolateItem (src : Sources) : PyVal → Except PyErr PyVal
  | .dict items => .dict <$> interpolateConfig src items
  | .str s => if search s then .str <$> interpolateValue src s else .ok (.str s)
  | item => .ok item

end

/-! ## 2. What it keeps -/

/-- A text with no token anywhere comes back as it is. -/
theorem subTokens_of_forall_none (src : Sources) :
    ∀ (s : List Char), (∀ t ∈ s.tails, matchToken t = none) → subTokens src 0 s = .ok s
  | [], _ => rfl
  | c :: cs, h => by
    simp only [List.tails, List.mem_cons, forall_eq_or_imp] at h
    simp only [subTokens, h.1, subTokens_of_forall_none src cs h.2, bind, Except.bind, pure,
      Except.pure]

/-- The walk keeps the keys of every dict, in order. -/
theorem interpolateConfig_keys {src : Sources} :
    ∀ {items r : List (String × PyVal)}, interpolateConfig src items = .ok r →
      r.map Prod.fst = items.map Prod.fst
  | [], r, h => by cases h; rfl
  | (key, value) :: rest, r, h => by
    obtain ⟨v, -, r', hr', h⟩ := by simpa only [interpolateConfig, bind_eq_ok] using h
    cases h
    simp [interpolateConfig_keys hr']

/-- The comprehension keeps the length of a list, and every item that is a list comes back
as it is, with whatever tokens its strings hold. -/
theorem interpolateItems_keeps_lists {src : Sources} :
    ∀ {xs ys : List PyVal}, interpolateItems src xs = .ok ys →
      ys.length = xs.length ∧
        ∀ (i : Nat) (l : List PyVal), xs[i]? = some (.list l) → ys[i]? = some (.list l)
  | [], ys, h => by cases h; simp
  | x :: rest, ys, h => by
    obtain ⟨y, hy, ys', hys', h⟩ := by simpa only [interpolateItems, bind_eq_ok] using h
    cases h
    obtain ⟨hlen, hlists⟩ := interpolateItems_keeps_lists hys'
    refine ⟨by simp [hlen], fun i l hi => ?_⟩
    cases i with
    | zero =>
      simp only [List.getElem?_cons_zero, Option.some.injEq] at hi ⊢
      subst hi
      simpa [interpolateItem] using hy.symm
    | succ i => simpa using hlists i l (by simpa using hi)

/-! ## 3. Where tokens survive -/

/-- One allowlisted variable, set to a value with no token. -/
def loaSources : Sources :=
  ⟨[("LOA_KEY", "sk"), ("LOA_EMPTY", "")], [], fun _ => .error .valueError⟩

/-- **Tokens survive `interpolate_config`.** With `LOA_KEY` and `LOA_EMPTY` allowlisted and set
to values with no token: a token in a list of a dict is resolved, the same token in a list
inside that list is left in place; and the text around a resolved token can form a new token,
which the single scan does not revisit. -/
theorem interpolate_config_leaves_tokens :
    checkEnvAllowed "LOA_KEY" [] = true ∧ checkEnvAllowed "LOA_EMPTY" [] = true ∧
      search "sk" = false ∧ search "" = false ∧
      interpolateConfig loaSources [("a", .list [.str "\x7benv:LOA_KEY\x7d"])] =
        .ok [("a", .list [.str "sk"])] ∧
      interpolateConfig loaSources [("a", .list [.list [.str "\x7benv:LOA_KEY\x7d"]])] =
        .ok [("a", .list [.list [.str "\x7benv:LOA_KEY\x7d"]])] ∧
      findall "\x7b\x7benv:LOA_EMPTY\x7denv:LOA_KEY\x7d" = [("env", "LOA_EMPTY")] ∧
      interpolateConfig loaSources [("b", .str "\x7b\x7benv:LOA_EMPTY\x7denv:LOA_KEY\x7d")] =
        .ok [("b", .str "\x7benv:LOA_KEY\x7d")] ∧
      search "\x7benv:LOA_KEY\x7d" = true := by
  refine ⟨by decide, by decide, by decide, by decide, rfl, rfl, by decide, rfl, by decide⟩

end Config
end Cheval
