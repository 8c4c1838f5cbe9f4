import Cheval.Config.Interpolate

/-!
# `_check_file_allowed`: the files a config may take its secrets from

`_replace` resolves a `{file:PATH}` token in two steps: `_check_file_allowed` resolves the path
and checks it, and `read_text().strip()` reads the file it returns. The check accepts a file
only when its resolved path lies under the project's `.loa.config.d` or under one of
`allowed_dirs`, each resolved in turn, when neither the path as written nor the resolved path
is a symbolic link, and when the resolved path is a regular file owned by the process's user
with none of the permission bits `0o137` (group write or execute, anything for others).
`checkFileAllowed_eq_ok_iff` says so, with `Allowed` the declarative reading of the checks on
the resolved path.

`interpolation_depends_only_on_allowed_secrets` is what the check and the allowlist of
`_check_env_allowed` are for, over whole configs: two processes whose `os.environ` agree on
every variable the allowlist admits, and whose files agree on the text of every file the check
accepts, interpolate every config to the same result, the same error included. So the value of
no other variable and the text of no other file can reach a config. It rests on the order of
the steps in `_replace`, the check before the read, and on the walk reaching the environment and
the files only through `_replace` (`interpolateConfig_congr`).

The file system is a parameter, `Fs`: what `Path.resolve`, `is_symlink`, `is_file`, `stat` and
`os.getuid` return. Paths are parsed as `PurePosixPath` parses them, and `relative_to` compares
their parts. The texts of the check's errors are not kept: each failure is its `ValueError`.
-/

set_option autoImplicit false

namespace Cheval
namespace Config

open Python

/-! ## 1. Paths -/

/-- A path as `PurePosixPath` parses it: whether it starts at the root, and its parts, with the
empty ones and `.` dropped. -/
structure PurePath where
  root : Bool
  parts : List String
  deriving DecidableEq, Repr

/-- `Path(s)`. -/
def PurePath.ofString (s : String) : PurePath :=
  ⟨s.startsWith "/", (s.splitOn "/").filter fun p => p != "" && p != "."⟩

/-- `a / b`: `b` itself when it starts at the root, else `b`'s parts after `a`'s. -/
def PurePath.div (a b : PurePath) : PurePath :=
  if b.root then b else ⟨a.root, a.parts ++ b.parts⟩

/-- `str()` of a resolved path, from its parts. -/
def absString (parts : List String) : String := "/" ++ "/".intercalate parts

/-! ## 2. The check -/

/-- `os.stat_result`, as the check reads it. -/
structure Stat where
  uid : Nat
  mode : Nat

/-- What the check asks of the file system. -/
structure Fs where
  /-- `Path.resolve()`: the absolute path with its symbolic links followed, as its parts. -/
  resolve : PurePath → List String
  /-- `Path.is_symlink()`. -/
  isSymlink : PurePath → Bool
  /-- `Path.is_file()` of a resolved path. -/
  isFile : List String → Bool
  /-- `Path.stat()` of a resolved path. -/
  stat : List String → Except PyErr Stat
  /-- `os.getuid()`. -/
  uid : Nat

/-- `stat.S_IMODE`. -/
def sImode (mode : Nat) : Nat := mode &&& 0o7777

/-- `path`: the file path, under the project root when it is relative. -/
def secretPath (filePath projectRoot : String) : PurePath :=
  let path := PurePath.ofString filePath
  if path.root then path else (PurePath.ofString projectRoot).div path

/-- `allowed`: the project's `.loa.config.d`, then each of `allowed_dirs`. -/
def allowedPaths (projectRoot : String) (allowedDirs : List String) : List PurePath :=
  (PurePath.ofString projectRoot).div (.ofString ".loa.config.d") ::
    allowedDirs.map PurePath.ofString

/-- `_check_file_allowed(file_path, project_root, allowed_dirs)`: the resolved path, as a
string. -/
def checkFileAllowed (fs : Fs) (filePath projectRoot : String) (allowedDirs : List String) :
    Except PyErr String :=
  let path := secretPath filePath projectRoot
  let resolved := fs.resolve path
  if fs.isSymlink path then .error .valueError
  else if !(allowedPaths projectRoot allowedDirs).any (fun d => (fs.resolve d).isPrefixOf resolved)
  then .error .valueError
  else if fs.isSymlink ⟨true, resolved⟩ then .error .valueError
  else if !fs.isFile resolved then .error .valueError
  else do
    let st ← fs.stat resolved
    if st.uid ≠ fs.uid then .error .valueError
    else if sImode st.mode &&& 0o137 ≠ 0 then .error .valueError
    else .ok (absString resolved)

/-- `_replace`'s file steps for a reference: the check, then `read_text().strip()` of the path
it returns. -/
def readSecret (fs : Fs) (readText : String → Except PyErr String) (projectRoot : String)
    (allowedFileDirs : List String) (ref : String) : Except PyErr String := do
  let resolvedPath ← checkFileAllowed fs ref projectRoot allowedFileDirs
  let text ← readText resolvedPath
  return strip text

/-- What `interpolate_value(…, project_root, extra_env_patterns, allowed_file_dirs)` reads:
`os.environ`, and the file system with the text of each file. -/
def fileSources (environ : List (String × String)) (extraEnvPatterns : List (String → Bool))
    (fs : Fs) (readText : String → Except PyErr String) (projectRoot : String)
    (allowedFileDirs : List String) : Sources :=
  ⟨environ, extraEnvPatterns, readSecret fs readText projectRoot allowedFileDirs⟩

/-! ## 3. What the check accepts -/

/-- A resolved path the check accepts: under one of the allowed directories, resolved, not a
symbolic link, a regular file owned by the process's user, with none of `0o137` among its
permission bits. -/
structure Allowed (fs : Fs) (projectRoot : String) (allowedDirs : List String)
    (resolved : List String) : Prop where
  under : ∃ d ∈ allowedPaths projectRoot allowedDirs, fs.resolve d <+: resolved
  notSymlink : fs.isSymlink ⟨true, resolved⟩ = false
  isFile : fs.isFile resolved = true
  safe : ∃ st, fs.stat resolved = .ok st ∧ st.uid = fs.uid ∧ sImode st.mode &&& 0o137 = 0

/-- The check returns exactly the resolved path of a file written as no symbolic link whose
resolved path is `Allowed`. -/
theorem checkFileAllowed_eq_ok_iff {fs : Fs} {filePath projectRoot s : String}
    {allowedDirs : List String} :
    checkFileAllowed fs filePath projectRoot allowedDirs = .ok s ↔
      fs.isSymlink (secretPath filePath projectRoot) = false ∧
        Allowed fs projectRoot allowedDirs (fs.resolve (secretPath filePath projectRoot)) ∧
        s = absString (fs.resolve (secretPath filePath projectRoot)) := by
  simp only [checkFileAllowed, ite_eq_iff, reduceCtorEq, and_false, false_or, bind_eq_ok,
    Except.ok.injEq, Bool.not_eq_true', Bool.not_eq_false', Bool.not_eq_true, Bool.not_eq_false,
    imp_false, List.any_eq_true, List.isPrefixOf_iff_prefix, ne_eq, not_not]
  constructor
  · rintro ⟨h1, ⟨d, hd, hp⟩, h3, h4, st, hst, h5, h6, rfl⟩
    exact ⟨h1, ⟨⟨d, hd, hp⟩, h3, h4, st, hst, h5, h6⟩, rfl⟩
  · rintro ⟨h1, ⟨⟨d, hd, hp⟩, h3, h4, st, hst, h5, h6⟩, rfl⟩
    exact ⟨h1, ⟨d, hd, hp⟩, h3, h4, st, hst, h5, h6, rfl⟩

/-! ## 4. What interpolation reads -/

section Congr

variable {src src' : Sources}

/-- The scan reads its sources only through `_replace`. -/
theorem subTokens_congr (h : ∀ m, replaceToken src m = replaceToken src' m) :
    ∀ k cs, subTokens src k cs = subTokens src' k cs
  | _, [] => by simp only [subTokens]
  | k + 1, _ :: cs => by simp only [subTokens, subTokens_congr h k cs]
  | 0, c :: cs => by
    cases hm : matchToken (c :: cs) <;> simp only [subTokens, hm, h, subTokens_congr h]

mutual

/-- The walk reads its sources only through `interpolate_value`. -/
theorem interpolateConfig_congr (h : ∀ s, interpolateValue src s = interpolateValue src' s) :
    ∀ items, interpolateConfig src items = interpolateConfig src' items
  | [] => rfl
  | (_, value) :: rest => by
    simp only [interpolateConfig, interpolateEntry_congr h value, interpolateConfig_congr h rest]

theorem interpolateEntry_congr (h : ∀ s, interpolateValue src s = interpolateValue src' s) :
    ∀ v, interpolateEntry src v = interpolateEntry src' v
  | .str s => by simp only [interpolateEntry, h]
  | .dict items => by simp only [interpolateEntry, interpolateConfig_congr h items]
  | .list xs => by simp only [interpolateEntry, interpolateItems_congr h xs]
  | .none | .bool _ | .int _ | .float _ => rfl

theorem interpolateItems_congr (h : ∀ s, interpolateValue src s = interpolateValue src' s) :
    ∀ xs, interpolateItems src xs = interpolateItems src' xs
  | [] => rfl
  | item :: rest => by
    simp only [interpolateItems, interpolateItem_congr h item, interpolateItems_congr h rest]

theorem interpolateItem_congr (h : ∀ s, interpolateValue src s = interpolateValue src' s) :
    ∀ v, interpolateItem src v = interpolateItem src' v
  | .dict items => by simp only [interpolateItem, interpolateConfig_congr h items]
  | .str s => by simp only [interpolateItem, h]
  | .none | .bool _ | .int _ | .float _ | .list _ => rfl

end

end Congr

section Secrets

variable {pats : List (String → Bool)} {fs : Fs} {projectRoot : String}
  {allowedFileDirs : List String} {environ environ' : List (String × String)}
  {readText readText' : String → Except PyErr String}

/-- A file reference reads only what the check accepts. -/
theorem readSecret_congr
    (hfile : ∀ resolved, Allowed fs projectRoot allowedFileDirs resolved →
      readText (absString resolved) = readText' (absString resolved)) (ref : String) :
    readSecret fs readText projectRoot allowedFileDirs ref =
      readSecret fs readText' projectRoot allowedFileDirs ref := by
  simp only [readSecret]
  cases hc : checkFileAllowed fs ref projectRoot allowedFileDirs with
  | error e => rfl
  | ok s =>
    obtain ⟨-, ha, rfl⟩ := checkFileAllowed_eq_ok_iff.1 hc
    simp only [bind, Except.bind, hfile _ ha]

/-- `_replace` reads a variable only once the allowlist admits it, and a file only once the
check accepts it. -/
theorem replaceToken_fileSources_congr
    (henv : ∀ name, checkEnvAllowed name pats = true →
      environ.lookup name = environ'.lookup name)
    (hfile : ∀ resolved, Allowed fs projectRoot allowedFileDirs resolved →
      readText (absString resolved) = readText' (absString resolved)) (m : String × String) :
    replaceToken (fileSources environ pats fs readText projectRoot allowedFileDirs) m =
      replaceToken (fileSources environ' pats fs readText' projectRoot allowedFileDirs) m := by
  simp only [replaceToken, fileSources]
  split_ifs with h1 h2 h3
  · rfl
  · rw [henv m.2 (by simpa using h2)]
  · exact readSecret_congr hfile m.2
  · rfl

end Secrets

/-- **Interpolation depends only on allowed secrets.** For any allowlist patterns, file system,
project root and allowed file directories: two processes whose `os.environ` bind every variable
the allowlist admits alike, and whose files hold the same text wherever the check accepts the
file, interpolate every config to the same result, the same error included. -/
theorem interpolation_depends_only_on_allowed_secrets (pats : List (String → Bool)) (fs : Fs)
    (projectRoot : String) (allowedFileDirs : List String)
    (environ environ' : List (String × String))
    (readText readText' : String → Except PyErr String)
    (henv : ∀ name, checkEnvAllowed name pats = true →
      environ.lookup name = environ'.lookup name)
    (hfile : ∀ resolved, Allowed fs projectRoot allowedFileDirs resolved →
      readText (absString resolved) = readText' (absString resolved))
    (config : List (String × PyVal)) :
    interpolateConfig (fileSources environ pats fs readText projectRoot allowedFileDirs) config =
      interpolateConfig (fileSources environ' pats fs readText' projectRoot allowedFileDirs)
        config :=
  interpolateConfig_congr (fun s => by
    simp only [interpolateValue, subTokens_congr (replaceToken_fileSources_congr henv hfile)])
    config

/-- A project at `/proj` whose one secret file is `.loa.config.d/key`, mode `0600`. -/
def keyFs : Fs where
  resolve p := p.parts
  isSymlink _ := false
  isFile r := r == ["proj", ".loa.config.d", "key"]
  stat _ := .ok ⟨0, 0o100600⟩
  uid := 0

/-- The key file's text, and a `/etc/shadow` beside it. -/
def shadowText (p : String) : Except PyErr String :=
  if p = "/etc/shadow" then .ok "root:x" else .ok "sk\n"

/-- A config that names the key, `/etc/shadow` and `HOME`. -/
def secretConfig : List (String × PyVal) :=
  [("key", .str "\x7bfile:.loa.config.d/key\x7d"), ("shadow", .str "\x7bfile:/etc/shadow\x7d"),
    ("home", .str "\x7benv:HOME\x7d")]

/-- Changing `/etc/shadow` and `HOME` changes nothing the config interpolates to. -/
theorem shadow_and_home_unread :
    (∀ name, checkEnvAllowed name [] = true →
      [("HOME", "/root")].lookup name = [("HOME", "/home/eve")].lookup name) ∧
    (∀ resolved, Allowed keyFs "/proj" [] resolved →
      shadowText (absString resolved) = (fun _ => .ok "sk\n") (absString resolved)) ∧
    interpolateConfig (fileSources [("HOME", "/root")] [] keyFs shadowText "/proj" [])
        secretConfig =
      interpolateConfig (fileSources [("HOME", "/home/eve")] [] keyFs (fun _ => .ok "sk\n")
        "/proj" []) secretConfig := by
  have henv : ∀ name, checkEnvAllowed name [] = true →
      [("HOME", "/root")].lookup name = [("HOME", "/home/eve")].lookup name := by
    intro name h
    by_cases hn : name = "HOME"
    · subst hn; exact absurd h (by decide)
    · simp only [lookup_cons_ite, if_neg hn]
  have hfile : ∀ resolved, Allowed keyFs "/proj" [] resolved →
      shadowText (absString resolved) = (fun _ => .ok "sk\n") (absString resolved) := by
    intro resolved h
    have hr : resolved = ["proj", ".loa.config.d", "key"] := by
      simpa [keyFs] using h.isFile
    subst hr
    rfl
  exact ⟨henv, hfile,
    interpolation_depends_only_on_allowed_secrets _ _ _ _ _ _ _ _ henv hfile secretConfig⟩

end Config
end Cheval
