import Cheval.Python.Value

/-!
# The patterns of `config_loader.py`

`_INTERP_RE`, `\{(env|file):([^}]+)\}`, finds interpolation tokens; `_SENSITIVE_KEY_RE`,
`(auth|key|secret|token|password|credential|bearer)` under `re.IGNORECASE`, flags the keys
whose values are secrets; `_CORE_ENV_PATTERNS` are the variable names `{env:…}` may read. All
are used through `search` and `findall`, and all are written out here as the `re` engine runs
them.

A token starts at a brace; its reference is greedy and must be closed, so it runs to the
first closing brace (`matchToken`). `findall` scans from the left and resumes after each match
(`findallSkip` counts down the characters of a match already found), and `search` asks for a
match at any position; `findall_ne_nil_iff_search` says the two agree.

Under `re.IGNORECASE` a character matches a lowercase ASCII letter when it lowercases to it,
or is one of the three other characters CPython folds onto the letters of the pattern:
U+0130 and U+0131 onto `i`, U+212A onto `k`, U+017F onto `s` (`foldsTo`).

In `^NAME$`, `$` matches at the end of the text and also before a newline that ends it, so
each exact name of the allowlist admits the name followed by one newline as well.
-/

set_option autoImplicit false

namespace Cheval
namespace Config

/-! ## 1. `_INTERP_RE` -/

/-- The brace that opens a token. -/
def openBrace : Char := '\x7b'

/-- The brace that closes a token. -/
def closeBrace : Char := '\x7d'

/-- `(env|file):` right after the brace: the first group, and what follows the colon. -/
def matchKind (s : List Char) : Option (String × List Char) :=
  if "env:".data.isPrefixOf s then some ("env", s.drop 4)
  else if "file:".data.isPrefixOf s then some ("file", s.drop 5)
  else none

/-- `_INTERP_RE.match(s)`: a token at the start of `s`, as its two groups. -/
def matchToken : List Char → Option (String × String)
  | c :: rest =>
    if c = openBrace then
      match matchKind rest with
      | some (kind, after) =>
        match after.span (· ≠ closeBrace) with
        | (r :: rs, _ :: _) => some (kind, ⟨r :: rs⟩)
        | _ => none
      | none => none
    else none
  | [] => none

/-- The characters of a match: the two braces, the kind, the colon and the reference. -/
def tokenLength (m : String × String) : Nat := m.1.length + m.2.length + 3

/-- `findall`, from a position `skip` characters before the next one it may match at. -/
def findallSkip : Nat → List Char → List (String × String)
  | _, [] => []
  | k + 1, _ :: cs => findallSkip k cs
  | 0, c :: cs =>
    match matchToken (c :: cs) with
    | some m => m :: findallSkip (tokenLength m - 1) cs
    | none => findallSkip 0 cs

/-- `_INTERP_RE.findall(s)`. -/
def findall (s : String) : List (String × String) := findallSkip 0 s.data

/-- `_INTERP_RE.search(s)` finds a match. -/
def search (s : String) : Bool := s.data.tails.any fun t => (matchToken t).isSome

theorem matchToken_nil : matchToken [] = none := rfl

/-- `findallSkip k s` finds nothing exactly when no match starts at a position from `k` on. -/
theorem findallSkip_eq_nil_iff (k : Nat) (s : List Char) :
    findallSkip k s = [] ↔ ∀ t ∈ (s.drop k).tails, matchToken t = none := by
  induction s generalizing k with
  | nil => simp [findallSkip, matchToken_nil]
  | cons c cs ih =>
    cases k with
    | succ k => simp only [findallSkip, List.drop_succ_cons, ih]
    | zero =>
      simp only [findallSkip, List.drop_zero, List.tails, List.mem_cons, forall_eq_or_imp]
      cases h : matchToken (c :: cs) with
      | some m => simp
      | none => simpa using ih 0

/-- `findall` finds a token exactly when `search` does. -/
theorem findall_ne_nil_iff_search (s : String) : findall s ≠ [] ↔ search s = true := by
  simp [findall, search, findallSkip_eq_nil_iff, Option.isSome_iff_ne_none]

/-! ## 2. `_SENSITIVE_KEY_RE` -/

/-- The alternatives of `_SENSITIVE_KEY_RE`. -/
def sensitiveWords : List String :=
  ["auth", "key", "secret", "token", "password", "credential", "bearer"]

/-- `c` matches the lowercase letter `x` under `re.IGNORECASE`. -/
def foldsTo (c x : Char) : Bool :=
  c.toLower == x || (x == 'i' && (c.toNat == 0x130 || c.toNat == 0x131)) ||
    (x == 'k' && c.toNat == 0x212A) || (x == 's' && c.toNat == 0x17F)

/-- `s` starts with the lowercase word `w` under `re.IGNORECASE`. -/
def startsWithFold : List Char → List Char → Bool
  | _, [] => true
  | c :: cs, x :: xs => foldsTo c x && startsWithFold cs xs
  | [], _ :: _ => false

/-- `_SENSITIVE_KEY_RE.search(key)` finds a match. -/
def sensitive (key : String) : Bool :=
  key.data.tails.any fun t => sensitiveWords.any fun w => startsWithFold t w.data

/-! ## 3. `_CORE_ENV_PATTERNS` -/

/-- `re.compile(f"^{name}$").search(v)`. -/
def matchesExactly (name v : String) : Bool := v == name || v == name ++ "\n"

/-- `_CORE_ENV_PATTERNS`, each as its `search`. -/
def coreEnvPatterns : List (String → Bool) :=
  [fun v => "LOA_".data.isPrefixOf v.data, matchesExactly "OPENAI_API_KEY",
    matchesExactly "ANTHROPIC_API_KEY", matchesExactly "MOONSHOT_API_KEY",
    fun v => "CHEVAL_".data.isPrefixOf v.data]

/-- `_check_env_allowed`, with each of `extra_patterns` as its `search`. -/
def checkEnvAllowed (varName : String) (extraPatterns : List (String → Bool)) : Bool :=
  coreEnvPatterns.any (· varName) || extraPatterns.any (· varName)

example : checkEnvAllowed "LOA_TOKEN" [] = true ∧ checkEnvAllowed "OPENAI_API_KEY\n" [] = true ∧
    checkEnvAllowed "HOME" [] = false := by decide

end Config
end Cheval
