import Cheval.Config.Redact
import Mathlib.Data.List.Infix

/-!
# `redact_headers` and `redact_string`

The other two redactions of `config_loader.py`, for what is logged. `redact_headers` replaces
the value of every header whose name `_SENSITIVE_KEY_RE` finds a match in. `redact_string`
replaces in a text the values of the secret environment variables, then the token after
`Authorization: Bearer` and after `x-api-key:`, both under `re.IGNORECASE`.

`redact_string` finds a header only written as `Authorization:` with the colon right after the
name. `redactString_redacts_bearer_line` says it then replaces any one-word token; but the same
header printed as a dict, or dumped as JSON, has a quote between the name and the colon, and
`redactString_keeps_printed_token` says the token is kept, whenever it is not the value of an
environment variable.

The two patterns are written out as `re` runs them, as the patterns of `Config.Patterns` are:
`\s` is `str.isspace()`, and each run of `\s` or `\S` is as long as it can be, since the
character after it is never one the pattern could take next.
-/

set_option autoImplicit false

namespace Cheval
namespace Config

open Python

/-! ## 1. `redact_headers` -/

/-- `redact_headers`: a header whose name `_SENSITIVE_KEY_RE` finds a match in has its value
replaced by `REDACTED`. -/
def redactHeaders (headers : List (String × PyVal)) : List (String × PyVal) :=
  headers.map fun kv => (kv.1, if sensitive kv.1 then .str redacted else kv.2)

/-! ## 2. `redact_string` -/

/-- `needle in haystack`. -/
def occursIn (needle haystack : List Char) : Bool := haystack.tails.any needle.isPrefixOf

/-- `haystack.replace(needle, replacement)` for a non-empty needle, from `skip` characters
before the next position it may match at: the occurrences from the left, each replaced, the
scan going on after it. -/
def replaceSkip (needle replacement : List Char) : Nat → List Char → List Char
  | _, [] => []
  | k + 1, _ :: cs => replaceSkip needle replacement k cs
  | 0, c :: cs =>
    if needle.isPrefixOf (c :: cs) then
      replacement ++ replaceSkip needle replacement (needle.length - 1) cs
    else c :: replaceSkip needle replacement 0 cs

/-- `re.sub(pattern, r"\1***REDACTED***", s)` for a pattern whose match at the start of a text
is `m`, as its first group and its length, from `skip` characters before the next position it
may match at. -/
def subSkip (m : List Char → Option (List Char × Nat)) : Nat → List Char → List Char
  | _, [] => []
  | k + 1, _ :: cs => subSkip m k cs
  | 0, c :: cs =>
    match m (c :: cs) with
    | some (group, length) => group ++ redacted.data ++ subSkip m (length - 1) cs
    | none => c :: subSkip m 0 cs

/-- `Authorization:`, in the lowercase `startsWithFold` compares with. -/
def authorizationLabel : List Char := "authorization:".data

/-- `x-api-key:`, in lowercase. -/
def apiKeyLabel : List Char := "x-api-key:".data

/-- `(Authorization:\s*Bearer\s+)\S+` under `re.IGNORECASE`, at the start of `s`: its group
and its length. -/
def matchBearer (s : List Char) : Option (List Char × Nat) :=
  if startsWithFold s authorizationLabel then
    let afterLabel := s.drop 14
    let space₁ := afterLabel.takeWhile isSpace
    let afterSpace := afterLabel.drop space₁.length
    if startsWithFold afterSpace "bearer".data then
      let afterBearer := afterSpace.drop 6
      let space₂ := afterBearer.takeWhile isSpace
      let token := (afterBearer.drop space₂.length).takeWhile (!isSpace ·)
      let group := 20 + space₁.length + space₂.length
      if space₂ ≠ [] ∧ token ≠ [] then some (s.take group, group + token.length) else none
    else none
  else none

/-- `(x-api-key:\s*)\S+` under `re.IGNORECASE`, at the start of `s`. -/
def matchApiKey (s : List Char) : Option (List Char × Nat) :=
  if startsWithFold s apiKeyLabel then
    let afterLabel := s.drop 10
    let space := afterLabel.takeWhile isSpace
    let token := (afterLabel.drop space.length).takeWhile (!isSpace ·)
    let group := 10 + space.length
    if token ≠ [] then some (s.take group, group + token.length) else none
  else none

/-- The variables of `redact_string`'s first loop, whose values it replaces whatever their
length. -/
def knownSecretVars : List String := ["OPENAI_API_KEY", "ANTHROPIC_API_KEY", "MOONSHOT_API_KEY"]

/-- The first loop of `redact_string`, at one of the three key variables it names: where the
variable is set to a value that occurs in the text, every occurrence is replaced. -/
def redactKnownVar (environ : List (String × String)) (result : List Char) (envVar : String) :
    List Char :=
  match environ.lookup envVar with
  | some envVal =>
    if envVal ≠ "" ∧ occursIn envVal.data result then
      replaceSkip envVal.data redacted.data 0 result
    else result
  | none => result

/-- The second loop of `redact_string`, at one item of `os.environ`: the value of a `LOA_`
variable longer than 8 characters is replaced where it occurs. -/
def redactLoaVar (result : List Char) (kv : String × String) : List Char :=
  if "LOA_".data.isPrefixOf kv.1.data ∧ kv.2 ≠ "" ∧ 8 < kv.2.length ∧ occursIn kv.2.data result
  then replaceSkip kv.2.data redacted.data 0 result
  else result

/-- `redact_string`, with `os.environ` as its items in order. -/
def redactString (environ : List (String × String)) (value : String) : String :=
  let result := knownSecretVars.foldl (redactKnownVar environ) value.data
  let result := environ.foldl redactLoaVar result
  ⟨subSkip matchApiKey 0 (subSkip matchBearer 0 result)⟩

example : redactString [] "authorization:Bearer\tsk-1 x-api-key:k2 tail" =
    "authorization:Bearer\t***REDACTED*** x-api-key:***REDACTED*** tail" := by decide

/-! ## 3. The scans -/

/-- A scan that matches nowhere leaves the text as it is. -/
theorem subSkip_of_forall_none {m : List Char → Option (List Char × Nat)} :
    ∀ (s : List Char), (∀ t ∈ s.tails, m t = none) → subSkip m 0 s = s
  | [], _ => rfl
  | c :: cs, h => by
    simp only [List.tails, List.mem_cons, forall_eq_or_imp] at h
    simp only [subSkip, h.1, subSkip_of_forall_none cs h.2]

theorem subSkip_zero_of_some {m : List Char → Option (List Char × Nat)} {s group : List Char}
    {length : Nat} (hs : s ≠ []) (h : m s = some (group, length)) :
    subSkip m 0 s = group ++ redacted.data ++ subSkip m (length - 1) s.tail := by
  cases s with
  | nil => exact absurd rfl hs
  | cons c cs => simp only [subSkip, h, List.tail_cons]

/-- A scan skipping past the end of the text emits nothing. -/
theorem subSkip_of_length_le {m : List Char → Option (List Char × Nat)} :
    ∀ (k : Nat) (s : List Char), s.length ≤ k → subSkip m k s = []
  | k, [], _ => by cases k <;> rfl
  | 0, _ :: _, h => absurd h (by simp)
  | k + 1, _ :: cs, h => subSkip_of_length_le k cs (by simpa using h)

/-- Only a colon folds to a colon. -/
theorem eq_of_foldsTo_colon {c : Char} (h : foldsTo c ':' = true) : c = ':' := by
  have hl : c.toLower = ':' := by
    simpa [foldsTo, show (':' == 'i') = false from rfl, show (':' == 'k') = false from rfl,
      show (':' == 's') = false from rfl] using h
  unfold Char.toLower at hl
  dsimp only at hl
  split at hl
  · next hc =>
    have key : ∀ n < 91, 65 ≤ n → Char.ofNat (n + 32) ≠ ':' := by decide
    exact absurd hl (key _ (by omega) hc.1)
  · exact hl

/-- Every character of a word a text starts with is folded from one of the text's. -/
theorem exists_foldsTo_of_startsWithFold :
    ∀ {s w : List Char}, startsWithFold s w = true → ∀ x ∈ w, ∃ c ∈ s, foldsTo c x = true
  | _, [], _, x, hx => absurd hx (List.not_mem_nil x)
  | [], _ :: _, h, _, _ => by simp [startsWithFold] at h
  | c :: cs, y :: ys, h, x, hx => by
    simp only [startsWithFold, Bool.and_eq_true] at h
    rcases List.mem_cons.1 hx with rfl | hx
    · exact ⟨c, List.mem_cons_self _ _, h.1⟩
    · obtain ⟨d, hd, hdx⟩ := exists_foldsTo_of_startsWithFold h.2 x hx
      exact ⟨d, List.mem_cons_of_mem _ hd, hdx⟩

/-- A text without a colon starts with no label. -/
theorem startsWithFold_eq_false_of_colon {s w : List Char} (hw : ':' ∈ w) (hs : ':' ∉ s) :
    startsWithFold s w = false := by
  cases h : startsWithFold s w
  · rfl
  · obtain ⟨c, hc, hcx⟩ := exists_foldsTo_of_startsWithFold h ':' hw
    exact absurd (eq_of_foldsTo_colon hcx ▸ hc) hs

/-- A prefix that already differs from the word decides the comparison. -/
theorem startsWithFold_append_eq_false :
    ∀ {p w : List Char} (r : List Char), startsWithFold p (w.take p.length) = false →
      startsWithFold (p ++ r) w = false
  | [], _, _, h => by simp [startsWithFold] at h
  | _ :: _, [], _, h => by simp [startsWithFold] at h
  | c :: cs, x :: xs, r, h => by
    simp only [List.length_cons, List.take_succ_cons, List.cons_append, startsWithFold,
      Bool.and_eq_false_iff] at h ⊢
    exact h.imp id (startsWithFold_append_eq_false r)

theorem mem_of_lookup {k v : String} :
    ∀ {l : List (String × String)}, l.lookup k = some v → (k, v) ∈ l
  | [], h => by simp at h
  | (k', v') :: l, h => by
    rw [List.lookup_cons] at h
    split at h
    · next hk =>
      cases h
      rw [beq_iff_eq.1 hk]
      exact List.mem_cons_self _ _
    · exact List.mem_cons_of_mem _ (mem_of_lookup h)

theorem matchBearer_eq_none {s : List Char} (h : startsWithFold s authorizationLabel = false) :
    matchBearer s = none := by
  simp only [matchBearer, h, Bool.false_eq_true, if_false]

theorem matchApiKey_eq_none {s : List Char} (h : startsWithFold s apiKeyLabel = false) :
    matchApiKey s = none := by
  simp only [matchApiKey, h, Bool.false_eq_true, if_false]

/-- A value `redact_string`'s loops look at: set, and of one of the three key variables or of
a `LOA_` variable longer than 8 characters. -/
def Watched (kv : String × String) : Prop :=
  kv.2 ≠ "" ∧ (kv.1 ∈ knownSecretVars ∨ ("LOA_".data.isPrefixOf kv.1.data ∧ 8 < kv.2.length))

/-- The first loop's step keeps a text in which no value of its variable occurs. -/
theorem redactKnownVar_of_not_occurs {environ : List (String × String)} {result : List Char}
    {envVar : String}
    (h : ∀ v, (envVar, v) ∈ environ → v ≠ "" → occursIn v.data result = false) :
    redactKnownVar environ result envVar = result := by
  unfold redactKnownVar
  split
  · next envVal hl => exact if_neg fun hc => by simp [h envVal (mem_of_lookup hl) hc.1] at hc
  · rfl

/-- The first loop keeps a text in which no watched value occurs. -/
theorem foldl_redactKnownVar_of_not_occurs {environ : List (String × String)}
    {result : List Char} (h : ∀ kv ∈ environ, Watched kv → occursIn kv.2.data result = false) :
    knownSecretVars.foldl (redactKnownVar environ) result = result := by
  have step : ∀ envVar ∈ knownSecretVars, redactKnownVar environ result envVar = result :=
    fun _ hvar => redactKnownVar_of_not_occurs fun v hv hv0 => h _ hv ⟨hv0, .inl hvar⟩
  simp only [knownSecretVars, List.foldl_cons, List.foldl_nil]
  rw [step _ (by decide), step _ (by decide), step _ (by decide)]

/-- The second loop keeps a text in which no watched value occurs. -/
theorem foldl_redactLoaVar_of_not_occurs (result : List Char) :
    ∀ environ : List (String × String),
      (∀ kv ∈ environ, Watched kv → occursIn kv.2.data result = false) →
      environ.foldl redactLoaVar result = result
  | [], _ => rfl
  | kv :: environ, h => by
    have hkv : redactLoaVar result kv = result := if_neg fun hc => by
      simp [h kv (List.mem_cons_self _ _) ⟨hc.2.1, .inr ⟨hc.1, hc.2.2.1⟩⟩] at hc
    rw [List.foldl_cons, hkv]
    exact foldl_redactLoaVar_of_not_occurs result environ fun k hk =>
      h k (List.mem_cons_of_mem _ hk)

/-- Neither label starts a text without a colon. -/
theorem labels_fail_of_no_colon {u : List Char} (hu : ':' ∉ u) :
    startsWithFold u authorizationLabel = false ∧ startsWithFold u apiKeyLabel = false :=
  ⟨startsWithFold_eq_false_of_colon (by decide) hu,
    startsWithFold_eq_false_of_colon (by decide) hu⟩

/-- No label starts anywhere in a part whose label comparisons fail before its end, followed by
a part without a colon. -/
theorem labels_fail_on_tails {p r : List Char}
    (hp : ∀ q ∈ p.tails, q ≠ [] → startsWithFold q (authorizationLabel.take q.length) = false ∧
      startsWithFold q (apiKeyLabel.take q.length) = false)
    (hr : ':' ∉ r) :
    ∀ u ∈ (p ++ r).tails, startsWithFold u authorizationLabel = false ∧
      startsWithFold u apiKeyLabel = false := by
  have hcut : ∀ u ∈ r.tails, ':' ∉ u := fun u hu h =>
    hr (((List.mem_tails u r).1 hu).subset h)
  rw [List.tails_append]
  intro u hu
  rcases List.mem_append.1 hu with hu | hu
  · obtain ⟨q, hq, rfl⟩ := List.mem_map.1 hu
    by_cases hq0 : q = []
    · subst hq0
      exact labels_fail_of_no_colon hr
    · exact ⟨startsWithFold_append_eq_false r (hp q hq hq0).1,
        startsWithFold_append_eq_false r (hp q hq hq0).2⟩
  · exact labels_fail_of_no_colon (hcut u (List.mem_of_mem_tail hu))

/-- **Where no label starts, `redact_string` changes nothing.** A text made of a part in
which every label comparison fails before its end and of a part without a colon, and in which
no value of the environment occurs, is returned as it is. -/
theorem redactString_eq_self (environ : List (String × String)) (p r : List Char)
    (henv : ∀ kv ∈ environ, Watched kv → occursIn kv.2.data (p ++ r) = false)
    (hp : ∀ q ∈ p.tails, q ≠ [] → startsWithFold q (authorizationLabel.take q.length) = false ∧
      startsWithFold q (apiKeyLabel.take q.length) = false)
    (hr : ':' ∉ r) :
    redactString environ ⟨p ++ r⟩ = ⟨p ++ r⟩ := by
  have hlabels := labels_fail_on_tails hp hr
  simp only [redactString]
  rw [foldl_redactKnownVar_of_not_occurs henv, foldl_redactLoaVar_of_not_occurs _ _ henv,
    subSkip_of_forall_none _ fun u hu => matchBearer_eq_none (hlabels u hu).1,
    subSkip_of_forall_none _ fun u hu => matchApiKey_eq_none (hlabels u hu).2]

/-- With no environment, only the two patterns act. -/
theorem redactString_nil (value : String) :
    redactString [] value = ⟨subSkip matchApiKey 0 (subSkip matchBearer 0 value.data)⟩ := by
  simp only [redactString, List.foldl_nil]
  rw [List.foldl_fixed' fun _ => rfl]

/-! ## 4. What `redact_string` finds -/

/-- **The header line is redacted.** `Authorization: Bearer` followed by a one-word token
becomes `Authorization: Bearer ***REDACTED***`. -/
theorem redactString_redacts_bearer_line (t : String) (ht : t ≠ "")
    (hs : ∀ c ∈ t.data, isSpace c = false) :
    redactString [] ("Authorization: Bearer " ++ t) = "Authorization: Bearer " ++ redacted := by
  have hne : t.data ≠ [] := fun h => ht (String.ext h)
  have h1 : t.data.takeWhile isSpace = [] := by
    cases hd : t.data with
    | nil => rfl
    | cons c cs => simp [List.takeWhile, hs c (hd ▸ List.mem_cons_self c cs)]
  have h2 : t.data.takeWhile (!isSpace ·) = t.data :=
    List.takeWhile_eq_self_iff.2 fun c hc => by simp [hs c hc]
  have hm : matchBearer ("Authorization: Bearer ".data ++ t.data) =
      some ("Authorization: Bearer ".data, 22 + t.data.length) := by
    simp +decide [matchBearer, authorizationLabel, h1, h2, hne, startsWithFold, foldsTo]
  have hs₁ : subSkip matchBearer 0 ("Authorization: Bearer ".data ++ t.data) =
      "Authorization: Bearer ".data ++ redacted.data := by
    rw [subSkip_zero_of_some (by simp) hm, subSkip_of_length_le _ _ (by simp; omega)]
    simp
  have hs₂ : subSkip matchApiKey 0 ("Authorization: Bearer ".data ++ redacted.data) =
      "Authorization: Bearer ".data ++ redacted.data := by decide
  rw [redactString_nil, String.data_append, hs₁, hs₂]
  rfl

theorem bearer_line_redacted :
    "sk-live-123" ≠ "" ∧ (∀ c ∈ "sk-live-123".data, isSpace c = false) ∧
      redactString [] ("Authorization: Bearer " ++ "sk-live-123") =
        "Authorization: Bearer " ++ redacted :=
  ⟨by decide, by decide, redactString_redacts_bearer_line "sk-live-123" (by decide) (by decide)⟩

/-- A token that Python's `repr` and `json.dumps` both print as it is: printable ASCII, with
no double quote (34), single quote (39) or backslash (92). -/
structure PlainToken where
  /-- The token. -/
  text : String
  plain : ∀ c ∈ text.data, 32 ≤ c.toNat ∧ c.toNat < 127 ∧ c.toNat ∉ [34, 39, 92]

/-- `str(headers)` for the headers `{"Authorization": "Bearer " + t}`: `repr` quotes the
name and the value with single quotes and escapes nothing in them. -/
def headersDictText (t : PlainToken) : String :=
  "\x7b'Authorization': 'Bearer " ++ t.text ++ "'\x7d"

/-- `json.dumps(headers)` for the same headers: double quotes, nothing escaped. -/
def headersJsonText (t : PlainToken) : String :=
  "\x7b\"Authorization\": \"Bearer " ++ t.text ++ "\"\x7d"

/-- **A printed header keeps its token.** The headers of a provider call printed as a dict or
dumped as JSON have a quote between `Authorization` and the colon, so neither pattern matches:
a token without a colon is kept, unless it is the value of an environment variable. -/
theorem redactString_keeps_printed_token (environ : List (String × String)) (t : PlainToken)
    (ht : ':' ∉ t.text.data)
    (henv : ∀ kv ∈ environ, kv.2 ≠ "" → occursIn kv.2.data (headersDictText t).data = false ∧
      occursIn kv.2.data (headersJsonText t).data = false) :
    redactString environ (headersDictText t) = headersDictText t ∧
      redactString environ (headersJsonText t) = headersJsonText t := by
  have hd : headersDictText t =
      ⟨"\x7b'Authorization': 'Bearer ".data ++ (t.text.data ++ "'\x7d".data)⟩ :=
    String.ext (by simp [headersDictText])
  have hj : headersJsonText t =
      ⟨"\x7b\"Authorization\": \"Bearer ".data ++ (t.text.data ++ "\"\x7d".data)⟩ :=
    String.ext (by simp [headersJsonText])
  have hr : ∀ q : List Char, ':' ∉ q → ':' ∉ t.text.data ++ q := fun q hq h =>
    (List.mem_append.1 h).elim ht hq
  rw [hd, hj] at henv ⊢
  exact ⟨redactString_eq_self environ _ _ (fun kv hkv h => (henv kv hkv h.1).1) (by decide)
      (hr _ (by decide)),
    redactString_eq_self environ _ _ (fun kv hkv h => (henv kv hkv h.1).2) (by decide)
      (hr _ (by decide))⟩

/-- The token `sk-live-123`. -/
def liveToken : PlainToken := ⟨"sk-live-123", by decide⟩

theorem printed_token_kept :
    ':' ∉ liveToken.text.data ∧
      (∀ kv ∈ [("HOME", "/root")], kv.2 ≠ "" →
        occursIn kv.2.data (headersDictText liveToken).data = false ∧
        occursIn kv.2.data (headersJsonText liveToken).data = false) ∧
      redactString [("HOME", "/root")] (headersDictText liveToken) = headersDictText liveToken ∧
      redactString [("HOME", "/root")] (headersJsonText liveToken) = headersJsonText liveToken :=
  ⟨by decide, by decide, redactString_keeps_printed_token [("HOME", "/root")] liveToken
    (by decide) (by decide)⟩

/-- **`redact_string` keeps the secrets it does not watch.** A log line holding only the value
of a variable that is neither one of the three key variables nor a `LOA_` variable longer than
8 characters, such as `CHEVAL_HMAC_SECRET`, comes out unchanged when the value has no colon. -/
theorem redactString_keeps_unwatched_value (name value : String)
    (hname : name ∉ knownSecretVars)
    (hloa : "LOA_".data.isPrefixOf name.data = true → value.length ≤ 8)
    (hcolon : ':' ∉ value.data) :
    redactString [(name, value)] value = value := by
  have henv : ∀ kv ∈ [(name, value)], Watched kv →
      occursIn kv.2.data ([] ++ value.data) = false := by
    rintro kv hkv ⟨-, hk | ⟨hl, hlen⟩⟩ <;> rw [List.mem_singleton] at hkv <;> subst hkv
    · exact absurd hk hname
    · exact absurd (hloa hl) (Nat.not_le.2 hlen)
  have hp : ∀ q ∈ ([] : List Char).tails, q ≠ [] →
      startsWithFold q (authorizationLabel.take q.length) = false ∧
        startsWithFold q (apiKeyLabel.take q.length) = false := fun q hq hq0 =>
    absurd (List.mem_singleton.1 hq) hq0
  exact redactString_eq_self _ [] value.data henv hp hcolon

theorem hmac_secret_kept :
    "CHEVAL_HMAC_SECRET" ∉ knownSecretVars ∧ ':' ∉ "hmac-secret-value".data ∧
      redactString [("CHEVAL_HMAC_SECRET", "hmac-secret-value")] "hmac-secret-value" =
        "hmac-secret-value" :=
  ⟨by decide, by decide, redactString_keeps_unwatched_value _ _ (by decide)
    (fun h => absurd h (by decide)) (by decide)⟩

/-- A `LOA_` value of 8 characters is kept too. -/
example : redactString [("LOA_TOKEN", "12345678")] "12345678" = "12345678" := by decide

end Config
end Cheval
