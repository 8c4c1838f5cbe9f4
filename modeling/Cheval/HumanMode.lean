import Cheval.Sidecar.Invoke
import Cheval.Request
import Cheval.Retry
import Cheval.Normalize
import Cheval.Config.Patterns

/-!
# `main` and `run_human_mode`

`main` reads the command line: `--request` anywhere selects the one-shot mode, with the word
after its first occurrence as the request path and the word after `--schema-version`, if any,
through `int()`; otherwise the first two words are the agent and the prompt file, and the word
after `--model` is the alias. Its own exits are all `sys.exit(4)`.

`run_human_mode` resolves the agent's model through the config's aliases to `provider:model`,
takes the provider's `options`, reads the prompt file and posts one user message. A key written
`{env:VAR}` is read from `os.environ` directly, without the interpolation allowlist
(`human_key_from_any_variable`), and the reference must split on `:` into exactly two parts, so
no model id with a colon can be called (`human_model_has_no_colon`). `runHumanMode_call` and
its converse `runHumanMode_of_reads` say which reads lead to the post and what it is made of.

After the one post, with no retry, an error status exits 1 and a timeout exits 2; any other
`httpx` exception, and a body `response.json()` refuses, end the process uncaught.

The config is what `yaml.safe_load` returned or raised, as a JSON value with string keys; the
prompt file's text is a function of its path, `int(time.time())` an argument.
-/

set_option autoImplicit false

namespace Cheval
namespace HumanMode

open Python Request Retry

/-! ## 1. `main` -/

/-- What `main` does with the command line: exit with the lines it printed to stderr, or run
one of the two modes. -/
inductive Command where
  | exit (code : Nat) (stderr : List String)
  | machine (requestPath : String) (schemaVersion : Int)
  | human (agent promptFile : String) (modelAlias : Option String)
  deriving DecidableEq, Repr

/-- The usage `main` prints for an empty command line. -/
def usageText : List String :=
  ["Usage:", "  Machine: python3 cheval.py --request <path> --schema-version 1",
    "  Human:   python3 cheval.py <agent> <prompt-file> [--model alias]"]

/-- `args[args.index(flag) + 1]`, where it is in range. -/
def flagValue (args : List String) (flag : String) : Option String :=
  args[args.indexOf flag + 1]?

/-- `main`, with `sys.argv[1:]` as `args` and `int()` of a word as `parseInt` (`none` where it
raises `ValueError`). -/
def main (parseInt : String → Option Int) (args : List String) : Except PyErr Command :=
  if args = [] then .ok (.exit 4 usageText)
  else if "--request" ∈ args then
    match flagValue args "--request" with
    | none => .ok (.exit 4 ["ERROR: --request requires a path argument"])
    | some requestPath => do
      let schemaVersion ← if "--schema-version" ∈ args then
          match flagValue args "--schema-version" with
          | some word =>
            match parseInt word with
            | some n => pure n
            | none => .error .valueError
          | none => pure 1
        else pure 1
      return .machine requestPath schemaVersion
  else
    match args with
    | agent :: promptFile :: _ =>
      let modelAlias := if "--model" ∈ args then flagValue args "--model" else none
      .ok (.human agent promptFile modelAlias)
    | _ => .ok (.exit 4 ["ERROR: Human mode requires <agent> <prompt-file>"])

/-- `main` exits only with 4, and raises only the `ValueError` of `int()` on the word after
`--schema-version` in the one-shot mode. -/
theorem main_ends {parseInt : String → Option Int} {args : List String} :
    (∀ code stderr, main parseInt args = .ok (.exit code stderr) → code = 4) ∧
    (∀ e, main parseInt args = .error e → e = .valueError ∧ "--request" ∈ args ∧
      ∃ word, flagValue args "--schema-version" = some word ∧ parseInt word = none) := by
  refine ⟨fun code stderr h => ?_, fun e h => ?_⟩ <;> unfold main at h <;>
    simp only [bind, Except.bind, pure, Except.pure] at h <;> repeat' split at h
  all_goals cases h
  all_goals first | rfl | exact ⟨rfl, ‹_›, _, ‹_›, ‹_›⟩

/-! ## 2. `run_human_mode` up to the provider call -/

/-- What `run_human_mode` calls from the library. -/
structure Lib where
  /-- `f"{v}"` and `str(v)` of a JSON value. -/
  pyStr : PyVal → String
  /-- `f"{x:.0f}"` of a float. -/
  fixed0 : ℚ → String

/-- What `run_human_mode` reads besides its arguments: whether `import yaml` succeeds, whether
`.loa.config.yaml` exists, what `yaml.safe_load` of it returned or raised, `os.environ`, what
reading a file returned or raised, and `int(time.time())`. -/
structure Env where
  yamlInstalled : Bool
  configExists : Bool
  config : Except PyErr PyVal
  environ : List (String × String)
  readFile : String → Except PyErr String
  now : Int

/-- The provider call `run_human_mode` reaches: what it posts, the `timeout` and `Limits` of
its `httpx.Client`, and what it prints and normalizes with after. -/
structure Call where
  url : String
  body : PyVal
  headers : List (String × PyVal)
  timeout : ℚ
  poolSize : PyVal
  keepaliveExpiry : ℚ
  providerName : String
  modelId : String
  providerType : PyVal
  traceId : String

/-- Where `run_human_mode` goes: `sys.exit(code)` after printing `stderr`, or the provider
call. -/
inductive Human where
  | exit (code : Nat) (stderr : List String)
  | call (c : Call)

/-- `d.get(key, default)` for a key that may be any JSON value: one that is not a string equals
no key of the dict, and a list or a dict is unhashable. -/
def getByValue (d key default : PyVal) : Except PyErr PyVal :=
  match d with
  | .dict items =>
    match key with
    | .str k => .ok ((items.lookup k).getD default)
    | _ => if key.hashable then .ok default else .error .typeError
  | _ => .error .attributeError

/-- `model_alias or binding.get("model", "")`. -/
def modelRefOf (binding : PyVal) (modelAlias : Option String) : Except PyErr PyVal :=
  match modelAlias with
  | some name => if name ≠ "" then .ok (.str name) else binding.getD "model" (.str "")
  | none => binding.getD "model" (.str "")

/-- The key of a provider: for a value written `{env:VAR}`, `os.environ.get(VAR, "")`, and any
other value as it is. -/
def resolveApiKey (environ : List (String × String)) (raw : String) : String :=
  if "\x7benv:".data.isPrefixOf raw.data ∧ "\x7d".data.isSuffixOf raw.data then
    (environ.lookup ⟨(raw.data.drop 5).dropLast⟩).getD ""
  else raw

/-- The body of the one user message. -/
def userBody (modelId prompt : String) : PyVal :=
  .dict [("model", .str modelId),
    ("messages", .list [.dict [("role", .str "user"), ("content", .str prompt)]])]

/-- `run_human_mode` up to `client.post`. -/
def runHumanMode (lib : Lib) (env : Env) (agent promptFile : String)
    (modelAlias : Option String) : Except PyErr Human :=
  if !env.yamlInstalled then .ok (.exit 5 ["ERROR: pyyaml not installed. Run: pip install pyyaml"])
  else if !env.configExists then .ok (.exit 4 ["ERROR: Config not found: .loa.config.yaml"])
  else do
    let config ← env.config
    let hounfour ← config.getD "hounfour" (.dict [])
    let providers ← hounfour.getD "providers" (.dict [])
    let aliases ← hounfour.getD "aliases" (.dict [])
    let agents ← hounfour.getD "agents" (.dict [])
    let binding ← agents.getD agent (.dict [])
    let modelRef ← modelRefOf binding modelAlias
    let canonical ← getByValue aliases modelRef modelRef
    let parts ← match canonical with
      | .str s => pure ((s.data.splitOn ':').map String.mk)
      | _ => .error .attributeError
    match parts with
    | [providerName, modelId] =>
      let provider ← providers.get providerName
      if !provider.truthy then
        return .exit 4 ["ERROR: Provider '" ++ providerName ++ "' not configured"]
      let apiKey ← match ← (← provider.getD "options" (.dict [])).getD "apiKey" (.str "") with
        | .str raw => pure (resolveApiKey env.environ raw)
        | _ => .error .attributeError
      if apiKey = "" then
        return .exit 4 ["ERROR: No API key for provider '" ++ providerName ++ "'"]
      let prompt ← env.readFile promptFile
      let baseUrl ← (← provider.getD "options" (.dict [])).getD "baseURL" (.str "")
      let url := (← Sidecar.rstripSlash baseUrl) ++ "/chat/completions"
      let headers := [("Authorization", .str ("Bearer " ++ apiKey)),
        ("Content-Type", .str "application/json")]
      let providerType ← provider.getD "type" (.str "openai")
      let poolSize ← (← provider.getD "options" (.dict [])).getD "pool_connections" (.int 10)
      return .call
        { url, body := userBody modelId prompt, headers, timeout := 60, poolSize,
          keepaliveExpiry := 30, providerName, modelId, providerType,
          traceId := "human-" ++ toString env.now }
    | _ =>
      return .exit 4
        ["ERROR: Cannot resolve model '" ++ lib.pyStr modelRef ++ "' to provider:model"]

/-! ## 3. The model reference -/

/-- No part `splitOnP` cuts holds a separator. -/
theorem not_of_mem_splitOnP {p : Char → Bool} :
    ∀ {l part : List Char}, part ∈ l.splitOnP p → ∀ x ∈ part, p x = false
  | [], part, h => by
    rw [List.splitOnP_nil, List.mem_singleton] at h
    simp [h]
  | y :: ys, part, h => by
    rw [List.splitOnP_cons] at h
    split at h
    · rcases List.mem_cons.1 h with rfl | h
      · simp
      · exact not_of_mem_splitOnP h
    · next hy =>
      obtain ⟨r, rs, hr⟩ := List.exists_cons_of_ne_nil (List.splitOnP_ne_nil p ys)
      rw [hr, List.modifyHead_cons] at h
      rcases List.mem_cons.1 h with rfl | h
      · intro x hx
        rcases List.mem_cons.1 hx with rfl | hx
        · simpa using hy
        · exact not_of_mem_splitOnP (hr ▸ List.mem_cons_self r rs) x hx
      · exact not_of_mem_splitOnP (hr ▸ List.mem_cons_of_mem r h)

/-- `s.split(":")` has exactly two parts when `s` is `p:m` with one colon. -/
theorem split_colon_eq_pair {s p m : String} :
    (s.data.splitOn ':').map String.mk = [p, m] ↔
      s = p ++ ":" ++ m ∧ ':' ∉ p.data ∧ ':' ∉ m.data := by
  have hno : ∀ {part : List Char}, part ∈ s.data.splitOn ':' → ':' ∉ part := fun h hc => by
    simpa using not_of_mem_splitOnP h ':' hc
  constructor
  · intro h
    have hs : s.data.splitOn ':' = [p.data, m.data] := by
      simpa [List.map_eq_cons_iff, String.ext_iff] using h
    refine ⟨String.ext ?_, hno (by simp [hs]), hno (by simp [hs])⟩
    rw [← List.intercalate_splitOn s.data ':', hs]
    simp [List.intercalate]
  · rintro ⟨rfl, hp, hm⟩
    have hs : (p ++ ":" ++ m).data.splitOn ':' = [p.data, m.data] := by
      have hsep : ∀ {l : List Char}, ':' ∉ l → ∀ x ∈ l, ¬(x == ':') = true :=
        fun hl x hx he => hl (beq_iff_eq.1 he ▸ hx)
      rw [String.data_append, String.data_append, List.append_assoc, List.splitOn]
      exact (List.splitOnP_first _ _ (hsep hp) ':' rfl _).trans
        (congrArg _ (List.splitOnP_eq_single _ _ (hsep hm)))
    rw [hs]
    rfl

/-- A key written `{env:VAR}` is the variable's value, whatever its name. -/
theorem resolveApiKey_env (environ : List (String × String)) (var : String) :
    resolveApiKey environ ("\x7benv:" ++ var ++ "\x7d") = (environ.lookup var).getD "" := by
  have hpre : "\x7benv:".data.isPrefixOf ("\x7benv:" ++ var ++ "\x7d").data :=
    List.isPrefixOf_iff_prefix.2 (by
      rw [String.data_append, String.data_append, List.append_assoc]
      exact List.prefix_append _ _)
  have hsuf : "\x7d".data.isSuffixOf ("\x7benv:" ++ var ++ "\x7d").data :=
    List.isSuffixOf_iff_suffix.2 (by rw [String.data_append]; exact List.suffix_append _ _)
  rw [resolveApiKey, if_pos ⟨hpre, hsuf⟩]
  simp

/-! ## 4. The provider call -/

/-- What the provider call of human mode is made of: each field as the source reads it from the
config, the environment and the prompt file. -/
theorem runHumanMode_call {lib : Lib} {env : Env} {agent promptFile : String}
    {modelAlias : Option String} {c : Call}
    (h : runHumanMode lib env agent promptFile modelAlias = .ok (.call c)) :
    ∃ config hounfour providers aliases agents binding modelRef provider options raw prompt
      baseUrl stripped,
      env.yamlInstalled = true ∧ env.configExists = true ∧ env.config = .ok config ∧
      config.getD "hounfour" (.dict []) = .ok hounfour ∧
      hounfour.getD "providers" (.dict []) = .ok providers ∧
      hounfour.getD "aliases" (.dict []) = .ok aliases ∧
      hounfour.getD "agents" (.dict []) = .ok agents ∧
      agents.getD agent (.dict []) = .ok binding ∧
      modelRefOf binding modelAlias = .ok modelRef ∧
      getByValue aliases modelRef modelRef = .ok (.str (c.providerName ++ ":" ++ c.modelId)) ∧
      ':' ∉ c.providerName.data ∧ ':' ∉ c.modelId.data ∧
      providers.get c.providerName = .ok provider ∧ provider.truthy = true ∧
      provider.getD "options" (.dict []) = .ok options ∧
      options.getD "apiKey" (.str "") = .ok (.str raw) ∧ resolveApiKey env.environ raw ≠ "" ∧
      env.readFile promptFile = .ok prompt ∧ c.body = userBody c.modelId prompt ∧
      options.getD "baseURL" (.str "") = .ok baseUrl ∧
      Sidecar.rstripSlash baseUrl = .ok stripped ∧ c.url = stripped ++ "/chat/completions" ∧
      c.headers = [("Authorization", .str ("Bearer " ++ resolveApiKey env.environ raw)),
        ("Content-Type", .str "application/json")] ∧
      provider.getD "type" (.str "openai") = .ok c.providerType ∧
      options.getD "pool_connections" (.int 10) = .ok c.poolSize ∧
      c.timeout = 60 ∧ c.keepaliveExpiry = 30 ∧ c.traceId = "human-" ++ toString env.now := by
  unfold runHumanMode at h
  by_cases hy : env.yamlInstalled = true
  swap
  · simp [hy] at h
  by_cases hx : env.configExists = true
  swap
  · simp [hy, hx] at h
  rw [if_neg (by simp [hy]), if_neg (by simp [hx])] at h
  obtain ⟨config, hconfig, h⟩ := bind_eq_ok.1 h
  obtain ⟨hounfour, hhf, h⟩ := bind_eq_ok.1 h
  obtain ⟨providers, hpr, h⟩ := bind_eq_ok.1 h
  obtain ⟨aliases, hal, h⟩ := bind_eq_ok.1 h
  obtain ⟨agents, hag, h⟩ := bind_eq_ok.1 h
  obtain ⟨binding, hb, h⟩ := bind_eq_ok.1 h
  obtain ⟨modelRef, hmr, h⟩ := bind_eq_ok.1 h
  obtain ⟨canonical, hcan, h⟩ := bind_eq_ok.1 h
  cases canonical with
  | str s =>
    simp only [pure_bind] at h
    split at h
    · rename_i providerName modelId hsplit
      obtain ⟨provider, hprov, h⟩ := bind_eq_ok.1 h
      split_ifs at h with htruthy
      · cases h
      obtain ⟨options, hopt, h⟩ := bind_eq_ok.1 h
      obtain ⟨key, hkey, h⟩ := bind_eq_ok.1 h
      cases key with
      | str raw =>
        simp only [pure_bind] at h
        split_ifs at h with hempty
        · cases h
        obtain ⟨prompt, hread, h⟩ := bind_eq_ok.1 h
        obtain ⟨options', hopt', h⟩ := bind_eq_ok.1 h
        obtain ⟨baseUrl, hbase, h⟩ := bind_eq_ok.1 h
        obtain ⟨stripped, hstrip, h⟩ := bind_eq_ok.1 h
        obtain ⟨ptype, htype, h⟩ := bind_eq_ok.1 h
        obtain ⟨options'', hopt'', h⟩ := bind_eq_ok.1 h
        obtain ⟨pool, hpool, h⟩ := bind_eq_ok.1 h
        cases h
        rw [hopt] at hopt' hopt''
        cases hopt'
        cases hopt''
        obtain ⟨rfl, hpc, hmc⟩ := split_colon_eq_pair.1 hsplit
        exact ⟨config, hounfour, providers, aliases, agents, binding, modelRef, provider, options,
          raw, prompt, baseUrl, stripped, hy, hx, hconfig, hhf, hpr, hal, hag, hb, hmr, hcan, hpc,
          hmc, hprov, by simpa using htruthy, hopt, hkey, hempty, hread, rfl, hbase, hstrip, rfl,
          rfl, htype, hpool, rfl, rfl, rfl⟩
      | _ => cases h
    · cases h
  | _ => cases h

/-- Conversely, a run whose every read succeeds reaches the provider call those reads give:
the key is checked only for being non-empty. -/
theorem runHumanMode_of_reads {lib : Lib} {env : Env} {agent promptFile : String}
    {modelAlias : Option String}
    {config hounfour providers aliases agents binding modelRef provider options baseUrl ptype
      pool : PyVal} {providerName modelId raw prompt stripped : String}
    (hyaml : env.yamlInstalled = true) (hexists : env.configExists = true)
    (hconfig : env.config = .ok config)
    (hhf : config.getD "hounfour" (.dict []) = .ok hounfour)
    (hpr : hounfour.getD "providers" (.dict []) = .ok providers)
    (hal : hounfour.getD "aliases" (.dict []) = .ok aliases)
    (hag : hounfour.getD "agents" (.dict []) = .ok agents)
    (hb : agents.getD agent (.dict []) = .ok binding)
    (hmr : modelRefOf binding modelAlias = .ok modelRef)
    (hcan : getByValue aliases modelRef modelRef = .ok (.str (providerName ++ ":" ++ modelId)))
    (hp : ':' ∉ providerName.data) (hm : ':' ∉ modelId.data)
    (hprov : providers.get providerName = .ok provider) (htruthy : provider.truthy = true)
    (hopt : provider.getD "options" (.dict []) = .ok options)
    (hkey : options.getD "apiKey" (.str "") = .ok (.str raw))
    (hempty : resolveApiKey env.environ raw ≠ "")
    (hread : env.readFile promptFile = .ok prompt)
    (hbase : options.getD "baseURL" (.str "") = .ok baseUrl)
    (hstrip : Sidecar.rstripSlash baseUrl = .ok stripped)
    (htype : provider.getD "type" (.str "openai") = .ok ptype)
    (hpool : options.getD "pool_connections" (.int 10) = .ok pool) :
    runHumanMode lib env agent promptFile modelAlias = .ok (.call
      { url := stripped ++ "/chat/completions", body := userBody modelId prompt,
        headers := [("Authorization", .str ("Bearer " ++ resolveApiKey env.environ raw)),
          ("Content-Type", .str "application/json")],
        timeout := 60, poolSize := pool, keepaliveExpiry := 30, providerName, modelId,
        providerType := ptype, traceId := "human-" ++ toString env.now }) := by
  have hsplit := split_colon_eq_pair.2 ⟨rfl, hp, hm⟩
  simp only [String.data_append, List.append_assoc, List.singleton_append] at hsplit
  simp [runHumanMode, hyaml, hexists, hconfig, hhf, hpr, hal, hag, hb, hmr, hcan, hsplit, hprov,
    htruthy, hopt, hkey, hempty, hread, hbase, hstrip, htype, hpool, bind, Except.bind, pure,
    Except.pure]

/-- A config with one provider, whose `options` hold its key and base URL. -/
def keyConfig (providerName baseUrl apiKey : String) : PyVal :=
  .dict [("hounfour", .dict [("providers", .dict [(providerName,
    .dict [("options", .dict [("apiKey", .str apiKey), ("baseURL", .str baseUrl)])])])])]

/-- A library whose `f"{v}"` writes a string as itself. -/
def strLib : Lib := ⟨fun v => match v with | .str s => s | _ => "", fun _ => "0"⟩

/-- A config whose one provider `openai` is keyed by `{env:HOME}`, with `HOME` set. -/
def homeEnv : Env :=
  { yamlInstalled := true, configExists := true,
    config := .ok (keyConfig "openai" "https://p/" ("\x7benv:" ++ "HOME" ++ "\x7d")),
    environ := [("HOME", "/root")], readFile := fun _ => .ok "hi", now := 0 }

/-- The call `homeEnv` leads to. -/
def homeCall : Call :=
  { url := "https://p/chat/completions", body := userBody "gpt-4o" "hi",
    headers := [("Authorization", .str "Bearer /root"), ("Content-Type", .str "application/json")],
    timeout := 60, poolSize := .int 10, keepaliveExpiry := 30, providerName := "openai",
    modelId := "gpt-4o", providerType := .str "openai", traceId := "human-0" }

theorem runHumanMode_home :
    runHumanMode strLib homeEnv "a" "p" (some "openai:gpt-4o") = .ok (.call homeCall) := by
  rfl

/-- **Human mode calls no model id with a colon.** The reference it resolves must split on
`:` into exactly two parts, so neither the provider's name nor the model id it posts holds
one. -/
theorem human_model_has_no_colon {lib : Lib} {env : Env} {agent promptFile : String}
    {modelAlias : Option String} {c : Call}
    (h : runHumanMode lib env agent promptFile modelAlias = .ok (.call c)) :
    ':' ∉ c.providerName.data ∧ ':' ∉ c.modelId.data :=
  let ⟨_, _, _, _, _, _, _, _, _, _, _, _, _, _, _, _, _, _, _, _, _, _, _, hp, hm, _⟩ :=
    runHumanMode_call h
  ⟨hp, hm⟩

theorem home_model_has_no_colon :
    runHumanMode strLib homeEnv "a" "p" (some "openai:gpt-4o") = .ok (.call homeCall) ∧
    ':' ∉ homeCall.providerName.data ∧ ':' ∉ homeCall.modelId.data :=
  ⟨runHumanMode_home, human_model_has_no_colon runHumanMode_home⟩

/-- An alias to an Ollama model, whose id holds a colon, is refused. -/
example :
    runHumanMode strLib { homeEnv with config := .ok (.dict [("hounfour", .dict [("aliases",
      .dict [("local", .str "ollama:llama3:8b")])])]) } "a" "p" (some "local") =
      .ok (.exit 4 ["ERROR: Cannot resolve model 'local' to provider:model"]) := rfl

/-- **Human mode reads its key from any variable.** For every config whose provider's key is
written `{env:VAR}`, a run whose reads succeed reaches the provider call with the value of `VAR`
as its bearer token, for every name `VAR` set to a non-empty value: no allowlist is
consulted. -/
theorem human_key_from_any_variable {lib : Lib} {env : Env} {agent promptFile : String}
    {modelAlias : Option String}
    {config hounfour providers aliases agents binding modelRef provider options baseUrl ptype
      pool : PyVal} {providerName modelId var value prompt stripped : String}
    (hyaml : env.yamlInstalled = true) (hexists : env.configExists = true)
    (hconfig : env.config = .ok config)
    (hhf : config.getD "hounfour" (.dict []) = .ok hounfour)
    (hpr : hounfour.getD "providers" (.dict []) = .ok providers)
    (hal : hounfour.getD "aliases" (.dict []) = .ok aliases)
    (hag : hounfour.getD "agents" (.dict []) = .ok agents)
    (hb : agents.getD agent (.dict []) = .ok binding)
    (hmr : modelRefOf binding modelAlias = .ok modelRef)
    (hcan : getByValue aliases modelRef modelRef = .ok (.str (providerName ++ ":" ++ modelId)))
    (hp : ':' ∉ providerName.data) (hm : ':' ∉ modelId.data)
    (hprov : providers.get providerName = .ok provider) (htruthy : provider.truthy = true)
    (hopt : provider.getD "options" (.dict []) = .ok options)
    (hkey : options.getD "apiKey" (.str "") = .ok (.str ("\x7benv:" ++ var ++ "\x7d")))
    (hvar : env.environ.lookup var = some value) (hvalue : value ≠ "")
    (hread : env.readFile promptFile = .ok prompt)
    (hbase : options.getD "baseURL" (.str "") = .ok baseUrl)
    (hstrip : Sidecar.rstripSlash baseUrl = .ok stripped)
    (htype : provider.getD "type" (.str "openai") = .ok ptype)
    (hpool : options.getD "pool_connections" (.int 10) = .ok pool) :
    ∃ c, runHumanMode lib env agent promptFile modelAlias = .ok (.call c) ∧
      c.url = stripped ++ "/chat/completions" ∧
      c.headers = [("Authorization", .str ("Bearer " ++ value)),
        ("Content-Type", .str "application/json")] := by
  have hresolve : resolveApiKey env.environ ("\x7benv:" ++ var ++ "\x7d") = value := by
    rw [resolveApiKey_env, hvar, Option.getD_some]
  refine ⟨_, runHumanMode_of_reads hyaml hexists hconfig hhf hpr hal hag hb hmr hcan hp hm hprov
    htruthy hopt hkey (hresolve ▸ hvalue) hread hbase hstrip htype hpool, rfl, ?_⟩
  rw [hresolve]

theorem home_key_sent :
    Config.checkEnvAllowed "HOME" [] = false ∧
      ∃ c, runHumanMode strLib homeEnv "a" "p" (some ("openai" ++ ":" ++ "gpt-4o")) =
          .ok (.call c) ∧ c.url = "https://p" ++ "/chat/completions" ∧
        c.headers = [("Authorization", .str ("Bearer " ++ "/root")),
          ("Content-Type", .str "application/json")] :=
  ⟨by decide, human_key_from_any_variable rfl rfl rfl rfl rfl rfl rfl rfl rfl rfl (by decide)
    (by decide) rfl rfl rfl rfl rfl (by decide) rfl rfl rfl rfl rfl⟩

/-! ## 5. After the provider call -/

/-- How `run_human_mode` ends after `client.post`: `sys.exit(code)` after printing `stderr`, an
exception of the post that no `except` names, with `str(e)`, or a normal return after printing
`stdout`. -/
inductive End where
  | exit (code : Nat) (stderr : List String)
  | uncaught (e : String)
  | printed (stdout : List String)

/-- The prints of a normalized result: the model, the thinking where there is some, the content,
and the token counts with the latency. -/
def printResult (lib : Lib) (c : Call) (result : PyVal) (latencyMs : ℚ) :
    Except PyErr (List String) := do
  let thinking ← result.getItem "thinking"
  let content ← result.getItem "content"
  let usage ← result.getItem "usage"
  let promptTokens ← usage.getItem "prompt_tokens"
  let completionTokens ← usage.getItem "completion_tokens"
  return ["\n--- " ++ c.modelId ++ " (" ++ c.providerName ++ ") ---"] ++
    (if thinking.truthy then ["\n[Thinking]\n" ++ lib.pyStr thinking ++ "\n"] else []) ++
    [lib.pyStr content, "\n--- Tokens: " ++ lib.pyStr promptTokens ++ "in/" ++
      lib.pyStr completionTokens ++ "out | " ++ lib.fixed0 latencyMs ++ "ms ---"]

/-- `run_human_mode` from `client.post` on, with `time.monotonic()` giving `latencyMs`:
`raise_for_status()` refuses every status outside 2xx. -/
def humanTail (lib : Lib) (normLib : Normalize.Lib) (c : Call) (outcome : Outcome)
    (latencyMs : ℚ) : Except PyErr End :=
  match outcome with
  | .response r =>
    if r.statusCode < 200 ∨ 300 ≤ r.statusCode then
      .ok (.exit 1 ["ERROR: HTTP " ++ toString r.statusCode ++ ": " ++ safeErrorBody lib.pyStr r])
    else
      match r.json with
      | none => .error .jsonDecodeError
      | some raw => do
        let result ← Normalize.normalizeResponse normLib raw c.providerType (.str c.traceId)
          latencyMs
        return .printed (← printResult lib c result latencyMs)
  | .timeout _ => .ok (.exit 2 ["ERROR: Request timed out"])
  | .connectError e | .other e => .ok (.uncaught e)

/-- `_extract_usage` returns the three counts. -/
theorem extractUsage_fields {raw usage : PyVal} (h : Normalize.extractUsage raw = .ok usage) :
    ∃ promptTokens completionTokens reasoningTokens,
      usage = .dict [("prompt_tokens", promptTokens), ("completion_tokens", completionTokens),
        ("reasoning_tokens", reasoningTokens)] := by
  unfold Normalize.extractUsage at h
  simp only [bind, Except.bind, pure, Except.pure] at h
  repeat' split at h
  all_goals cases h
  exact ⟨_, _, _, rfl⟩

/-- What `normalize_response` returns is a dict with its five entries, `usage` holding the
three counts. -/
theorem normalizeResponse_fields {normLib : Normalize.Lib} {raw providerType traceId result : PyVal}
    {latencyMs : ℚ}
    (h : Normalize.normalizeResponse normLib raw providerType traceId latencyMs = .ok result) :
    ∃ content thinking toolCalls promptTokens completionTokens reasoningTokens md,
      result = .dict [("content", content), ("thinking", thinking), ("tool_calls", toolCalls),
        ("usage", .dict [("prompt_tokens", promptTokens), ("completion_tokens", completionTokens),
          ("reasoning_tokens", reasoningTokens)]), ("metadata", md)] := by
  unfold Normalize.normalizeResponse Normalize.emptyResult at h
  simp only [bind, Except.bind, pure, Except.pure] at h
  repeat' split at h
  all_goals cases h
  all_goals
    obtain ⟨_, _, _, rfl⟩ := extractUsage_fields ‹Normalize.extractUsage _ = _›
    exact ⟨_, _, _, _, _, _, _, rfl⟩

/-- The prints never raise on what `normalize_response` returns. -/
theorem printResult_ok (lib : Lib) (c : Call) {normLib : Normalize.Lib}
    {raw providerType traceId result : PyVal} {latencyMs : ℚ}
    (h : Normalize.normalizeResponse normLib raw providerType traceId latencyMs = .ok result) :
    Ok (printResult lib c result latencyMs) := by
  obtain ⟨_, _, _, _, _, _, _, rfl⟩ := normalizeResponse_fields h
  exact ⟨_, rfl⟩

/-- The exits after the call: 1 for a status outside 2xx, 2 for a timeout. -/
theorem humanTail_exit {lib : Lib} {normLib : Normalize.Lib} {c : Call} {outcome : Outcome}
    {latencyMs : ℚ} {code : Nat} {stderr : List String}
    (h : humanTail lib normLib c outcome latencyMs = .ok (.exit code stderr)) :
    (code = 1 ∧ ∃ r, outcome = .response r ∧ (r.statusCode < 200 ∨ 300 ≤ r.statusCode)) ∨
      (code = 2 ∧ ∃ e, outcome = .timeout e) := by
  unfold humanTail at h
  simp only [bind, Except.bind, pure, Except.pure] at h
  repeat' split at h
  all_goals cases h
  · exact .inl ⟨rfl, _, rfl, ‹_›⟩
  · exact .inr ⟨rfl, _, rfl⟩

end HumanMode
end Cheval
